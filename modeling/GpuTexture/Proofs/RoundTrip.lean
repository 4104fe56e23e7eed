import Mathlib
import GpuTexture.Proofs.LevelAccess

/-!
# Reading back a written container

A draft of a mip chain is decoded to the header it was written with and one level for each payload.
The index was written in one of two orders, and the sizes of the chain tell which one, unless they
are all equal: then an index with the base level first is taken for one with the base level last.
-/

namespace GpuTexture

namespace LevelEntry

def payload (bytes : Bytes) (entry : LevelEntry) : Bytes :=
  bytes.extract entry.byteOffset.toNat entry.byteEnd

end LevelEntry

namespace Draft

private theorem length_entriesFrom (offset : Nat) (runs : List Bytes) :
    (entriesFrom offset runs).length = runs.length := by
  induction runs generalizing offset with
  | nil => rfl
  | cons run rest ih => simp [entriesFrom, ih]

private theorem entryAt_exact {offset : Nat} {run : Bytes} (hend : offset + run.size < 2 ^ 64) :
    (entryAt offset run).byteOffset.toNat = offset ∧
      (entryAt offset run).byteLength.toNat = run.size ∧
      (entryAt offset run).byteEnd = offset + run.size := by
  have hoffset : offset < 2 ^ 64 := by omega
  have hlength : run.size < 2 ^ 64 := by omega
  have hstart : (entryAt offset run).byteOffset.toNat = offset :=
    UInt64.toNat_ofNat_of_lt' hoffset
  have hsize : (entryAt offset run).byteLength.toNat = run.size :=
    UInt64.toNat_ofNat_of_lt' hlength
  refine ⟨hstart, hsize, ?_⟩
  rw [LevelEntry.byteEnd, hstart, hsize]

private theorem size_concat_cons (front run : Bytes) (rest : List Bytes) :
    front.size + run.size + (Bytes.concat rest).size =
      (front ++ Bytes.concat (run :: rest)).size := by
  rw [Bytes.concat_cons, ByteArray.size_append, ByteArray.size_append, Nat.add_assoc]

private theorem payload_entriesFrom (front : Bytes) {runs : List Bytes}
    (hsize : (front ++ Bytes.concat runs).size < 2 ^ 64) :
    (entriesFrom front.size runs).map (LevelEntry.payload (front ++ Bytes.concat runs)) = runs := by
  induction runs generalizing front with
  | nil => rfl
  | cons run rest ih =>
    have hparts := size_concat_cons front run rest
    obtain ⟨hstart, _, hend⟩ := entryAt_exact (by omega : front.size + run.size < 2 ^ 64)
    have hjoin : front ++ Bytes.concat (run :: rest) = front ++ run ++ Bytes.concat rest := by
      rw [Bytes.concat_cons, ByteArray.append_assoc]
    have hhead : LevelEntry.payload (front ++ Bytes.concat (run :: rest))
        (entryAt front.size run) = run := by
      have hrun := ByteArray.extract_append_size_add (a := front) (b := Bytes.concat (run :: rest))
        (i := 0) (j := run.size)
      rw [LevelEntry.payload, hstart, hend, ← Nat.add_zero front.size, Nat.add_assoc,
        Nat.zero_add, hrun, Bytes.concat_cons]
      exact ByteArray.extract_append_eq_left rfl
    have htail := ih (front ++ run) (by rw [← hjoin]; exact hsize)
    rw [ByteArray.size_append, ← hjoin] at htail
    rw [entriesFrom, List.map_cons, hhead, htail]

private theorem byteLength_entriesFrom {offset : Nat} {runs : List Bytes}
    (hsize : offset + (Bytes.concat runs).size < 2 ^ 64) :
    (entriesFrom offset runs).map (fun entry => entry.byteLength.toNat) =
      runs.map ByteArray.size := by
  induction runs generalizing offset with
  | nil => rfl
  | cons run rest ih =>
    rw [Bytes.concat_cons, ByteArray.size_append] at hsize
    obtain ⟨_, hlength, _⟩ := entryAt_exact (by omega : offset + run.size < 2 ^ 64)
    rw [entriesFrom, List.map_cons, hlength, ih (by omega), List.map_cons]

private theorem byteEnd_le_of_mem_entriesFrom {offset : Nat} {runs : List Bytes}
    (hsize : offset + (Bytes.concat runs).size < 2 ^ 64) {entry : LevelEntry}
    (hentry : entry ∈ entriesFrom offset runs) :
    entry.byteEnd ≤ offset + (Bytes.concat runs).size := by
  induction runs generalizing offset with
  | nil => nomatch hentry
  | cons run rest ih =>
    rw [Bytes.concat_cons, ByteArray.size_append] at hsize ⊢
    rcases List.mem_cons.mp hentry with rfl | hrest
    · obtain ⟨_, _, hend⟩ := entryAt_exact (by omega : offset + run.size < 2 ^ 64)
      omega
    · have htail := ih (by omega) hrest
      omega

variable {draft : Draft}

def front (draft : Draft) : Bytes :=
  (draft.header.toRecord ktx2Identifier).toBlock ++ Bytes.concat (draft.index.map LevelEntry.toBlock)

private theorem length_index (draft : Draft) : draft.index.length = draft.payloads.length := by
  have hentries : draft.entries.length = draft.payloads.length := by
    rw [entries, length_entriesFrom, List.length_reverse]
  unfold index
  split
  · exact hentries
  · rw [List.length_reverse, hentries]

private theorem size_front (draft : Draft) : draft.front.size = draft.dataStart := by
  have heven : ∀ run ∈ draft.index.map LevelEntry.toBlock, run.size = 24 :=
    fun run => LevelEntry.size_toBlock_of_mem
  rw [front, ByteArray.size_append, HeaderRecord.size_toBlock (by rfl),
    Bytes.size_concat_of_even heven, List.length_map, length_index]
  rfl

theorem size_write (draft : Draft) :
    draft.write.size = draft.dataStart + (Bytes.concat draft.payloads.reverse).size := by
  rw [← size_front, ← ByteArray.size_append]
  rfl

theorem ofBlock_write (draft : Draft) :
    HeaderRecord.ofBlock draft.write = draft.header.toRecord ktx2Identifier := by
  rw [write, ByteArray.append_assoc]
  exact HeaderRecord.ofBlock_toBlock_append (by rfl) _

theorem indexAt_write (draft : Draft) :
    LevelEntry.indexAt draft.payloads.length 80 draft.write = draft.index := by
  have hblock : (draft.header.toRecord ktx2Identifier).toBlock.size = 80 :=
    HeaderRecord.size_toBlock (by rfl)
  have hwritten := LevelEntry.indexAt_written (draft.header.toRecord ktx2Identifier).toBlock
    (Bytes.concat draft.payloads.reverse) draft.index
  rw [hblock, length_index] at hwritten
  exact hwritten

theorem payload_entries (hsize : draft.write.size < 2 ^ 64) :
    draft.entries.map (LevelEntry.payload draft.write) = draft.payloads.reverse := by
  have hwritten : (entriesFrom draft.front.size draft.payloads.reverse).map
      (LevelEntry.payload draft.write) = draft.payloads.reverse :=
    payload_entriesFrom draft.front hsize
  rw [size_front] at hwritten
  exact hwritten

private theorem byteLength_entries (hsize : draft.write.size < 2 ^ 64) :
    draft.entries.map (fun entry => entry.byteLength.toNat) =
      (draft.payloads.map ByteArray.size).reverse := by
  rw [size_write] at hsize
  rw [entries, byteLength_entriesFrom hsize, List.map_reverse]

theorem byteEnd_le_of_mem_entries (hsize : draft.write.size < 2 ^ 64) {entry : LevelEntry}
    (hentry : entry ∈ draft.entries) : entry.byteEnd ≤ draft.write.size := by
  rw [size_write] at hsize ⊢
  exact byteEnd_le_of_mem_entriesFrom hsize hentry

/-- A draft of a whole mip chain: its header passes its checks and counts the payloads, zero
standing for a single one; every payload fills the layout of its level; and the bytes can be
addressed by 64-bit words. -/
structure IsMipChain (draft : Draft) (block : BlockLayout) : Prop where
  format : ∃ format, VkFormat.toFormat? draft.header.vkFormat = some format ∧
    format.blockLayout? = some block
  plain : draft.header.scheme = .none
  view : ∃ view, draft.header.shape.viewDimension = .ok view
  extent : ∃ extent, draft.header.shape.baseExtent = .ok extent
  nonempty : 0 < draft.payloads.length
  count : draft.header.levelCount.toNat = draft.payloads.length ∨
    draft.header.levelCount = 0 ∧ draft.payloads.length = 1
  filled : ∀ mip (hmip : mip < draft.payloads.length), ∃ level,
    LevelLayout.compute block draft.header.shape (.ofNat mip) = .ok level ∧
      level.byteSize? = some draft.payloads[mip].size
  addressable : draft.write.size < 2 ^ 64

namespace IsMipChain

variable {block : BlockLayout}

theorem hasSides (hchain : draft.IsMipChain block) : block.HasSides := by
  obtain ⟨format, _, hblock⟩ := hchain.format
  exact TextureFormat.hasSides_of_blockLayout? hblock

theorem storedLevelCount_eq (hchain : draft.IsMipChain block) :
    draft.header.storedLevelCount.toNat = draft.payloads.length := by
  have hpos := hchain.nonempty
  rw [Header.toNat_storedLevelCount]
  rcases hchain.count with hcount | ⟨hzero, hone⟩
  · omega
  · rw [hzero, hone]
    rfl

private theorem hasAxis (hchain : draft.IsMipChain block) : ¬ draft.header.shape.HasNoAxis := by
  intro haxis
  obtain ⟨view, hview⟩ := hchain.view
  rw [Shape.viewDimension_of_hasNoAxis haxis] at hview
  cases hview

theorem slices_lt (hchain : draft.IsMipChain block) : draft.header.shape.slices 0 < 2 ^ 32 := by
  by_contra hlarge
  obtain ⟨extent, hextent⟩ := hchain.extent
  rw [Shape.baseExtent_of_large (Nat.not_lt.mp hlarge)] at hextent
  cases hextent

theorem fits (hchain : draft.IsMipChain block) : block.Fits draft.header.shape 0 := by
  obtain ⟨level, hlevel, _⟩ := hchain.filled 0 hchain.nonempty
  exact ((BlockLayout.compute_eq_ok_iff hchain.hasSides).mp hlevel).2.1

private theorem sizes_eq (hchain : draft.IsMipChain block) :
    draft.payloads.map ByteArray.size =
      block.chainBytes draft.header.shape draft.payloads.length := by
  apply List.ext_getElem
  · rw [List.length_map, BlockLayout.length_chainBytes]
  · intro mip hmip _
    rw [List.length_map] at hmip
    obtain ⟨level, hlevel, hsize⟩ := hchain.filled mip hmip
    rw [BlockLayout.byteSize?_of_compute hchain.hasSides hlevel] at hsize
    rw [List.getElem_map, BlockLayout.getElem_chainBytes]
    exact (Option.some.inj hsize).symm

private theorem ends_eq_iff (hchain : draft.IsMipChain block) :
    draft.payloads.head?.map ByteArray.size = draft.payloads.getLast?.map ByteArray.size ↔
      block.packedBytes draft.header.shape 0 =
        block.packedBytes draft.header.shape (.ofNat (draft.payloads.length - 1)) := by
  have hpos := hchain.nonempty
  have hlength : (block.chainBytes draft.header.shape draft.payloads.length).length =
      draft.payloads.length := BlockLayout.length_chainBytes _
  rw [← List.head?_map, ← List.getLast?_map, hchain.sizes_eq, List.head?_eq_getElem?,
    List.getLast?_eq_getElem?, List.getElem?_eq_getElem (by omega),
    List.getElem?_eq_getElem (by omega), Option.some.injEq, BlockLayout.getElem_chainBytes,
    BlockLayout.getElem_chainBytes, hlength]
  rfl

/-- An index is kept as read when it was written with the base level first and the ends of the chain
tell this. -/
theorem orderedEntries_index (hchain : draft.IsMipChain block) :
    block.orderedEntries draft.header.shape draft.index =
      if draft.order = .baseFirst ∧ block.packedBytes draft.header.shape 0 =
          block.packedBytes draft.header.shape (.ofNat (draft.payloads.length - 1)) then
        draft.entries
      else draft.entries.reverse := by
  have hlengths := byteLength_entries hchain.addressable
  rw [hchain.sizes_eq] at hlengths
  have hsmall : draft.payloads.length ≤ 2 ^ 32 := by
    rw [← hchain.storedLevelCount_eq]
    exact Nat.le_of_lt (UInt32.toNat_lt _)
  have hmirror := BlockLayout.chainBytes_reverse_eq_self_iff block draft.header.shape
    hchain.nonempty hsmall
  rw [BlockLayout.orderedEntries, length_index]
  cases horder : draft.order with
  | smallestFirst =>
    have hindex : draft.index = draft.entries := by rw [index, horder]
    -- Kept as read, these lengths would make the chain its own mirror image, so its ends equal.
    rw [hindex, hlengths, if_neg (fun h => h.2 (hmirror.mp h.1)), if_neg (by simp)]
  | baseFirst =>
    have hindex : draft.index = draft.entries.reverse := by rw [index, horder]
    rw [hindex, List.map_reverse, hlengths, List.reverse_reverse, List.reverse_reverse]
    by_cases hends : block.packedBytes draft.header.shape 0 =
        block.packedBytes draft.header.shape (.ofNat (draft.payloads.length - 1))
    · rw [if_neg (fun h => h.2 hends), if_pos ⟨rfl, hends⟩]
    · rw [if_pos ⟨rfl, hends⟩, if_neg (fun h => hends h.2)]

private theorem indexRefusal?_write (hchain : draft.IsMipChain block) :
    indexRefusal? block draft.header.shape draft.payloads.length draft.write = none := by
  have hlong : draft.write.size = 80 + 24 * draft.payloads.length + _ := size_write draft
  have hinside : ∀ entry ∈ block.orderedEntries draft.header.shape draft.index,
      ¬ draft.write.size < entry.byteOffset.toNat + entry.byteLength.toNat := by
    intro entry hentry
    apply Nat.not_lt.mpr
    apply byteEnd_le_of_mem_entries hchain.addressable
    rw [hchain.orderedEntries_index] at hentry
    split at hentry
    · exact hentry
    · exact List.mem_reverse.mp hentry
  rw [indexRefusal?, if_neg (by omega), if_neg (not_not.mpr hchain.fits), indexAt_write]
  dsimp only
  rw [List.find?_eq_none.mpr fun entry hentry => mt of_decide_eq_true (hinside entry hentry)]
  rfl

theorem refusal?_write (hchain : draft.IsMipChain block) : refusal? draft.write = none := by
  obtain ⟨format, hformat, hblock⟩ := hchain.format
  have hrecord := ofBlock_write draft
  have hidentifier : draft.write.extract 0 12 = ktx2Identifier := by
    change (HeaderRecord.ofBlock draft.write).identifier = _
    rw [hrecord]
    rfl
  have hshape : (HeaderRecord.ofBlock draft.write).shape = draft.header.shape :=
    congrArg HeaderRecord.shape hrecord
  have hscheme : (HeaderRecord.ofBlock draft.write).scheme = 0 := by
    rw [hrecord]
    exact Supercompression.toWord_eq_zero_iff.mpr hchain.plain
  have hcode : (HeaderRecord.ofBlock draft.write).vkFormat = draft.header.vkFormat :=
    congrArg HeaderRecord.vkFormat hrecord
  have hcount : (HeaderRecord.ofBlock draft.write).entryCount = draft.payloads.length := by
    rw [← hchain.storedLevelCount_eq, Header.toNat_storedLevelCount]
    exact congrArg HeaderRecord.entryCount hrecord
  have hlong : draft.write.size = 80 + 24 * draft.payloads.length + _ := size_write draft
  have hinvalid : ¬ (draft.header.shape.HasNoAxis ∨ 2 ^ 32 ≤ draft.header.shape.slices 0) :=
    not_or.mpr ⟨hchain.hasAxis, Nat.not_le.mpr hchain.slices_lt⟩
  unfold refusal?
  dsimp only
  rw [hshape, hscheme, hcode, hcount, ← Shape.slices_zero, hformat]
  dsimp only
  rw [hblock]
  dsimp only
  rw [if_neg (not_not.mpr hidentifier), if_neg (by omega), if_neg (by decide),
    if_neg (not_not.mpr rfl), if_neg hinvalid, hchain.indexRefusal?_write]

end IsMipChain

end Draft

namespace Container

variable {container : Container} {draft : Draft} {block : BlockLayout}

theorem DecodedFrom.levelData_eq {bytes : Bytes} (hdecoded : container.DecodedFrom bytes)
    {payloads : List Bytes}
    (hpayloads : container.levels.toList.map (LevelEntry.payload bytes) = payloads)
    {mip : Nat} (hmip : mip < payloads.length) :
    container.levelData (.ofNat mip) = .ok payloads[mip] := by
  have hcount : container.levelCount.toNat = payloads.length := by
    rw [hdecoded.toNat_levelCount, ← hpayloads, List.length_map, Array.length_toList]
  obtain ⟨hbelow, hword⟩ := ofNat_lt_word (by rw [hcount]; exact hmip)
  obtain ⟨entry, hentry, _, _, _, hdata, _⟩ := hdecoded.access_eq_ok hbelow
  have hnamed : payloads[mip]? = some (entry.payload bytes) := by
    rw [← hpayloads, List.getElem?_map, Array.getElem?_toList, ← hword, hentry]
    rfl
  rw [List.getElem?_eq_getElem hmip, Option.some.injEq] at hnamed
  rw [hdata, hnamed]
  rfl

/-- A written mip chain is decoded to its entries, in base-first order or, where the order cannot be
told, in the order opposite to the one in which they were written. -/
theorem exists_decode_write (hchain : draft.IsMipChain block) :
    ∃ container, decode draft.write = .ok container ∧ container.DecodedFrom draft.write ∧
      container.header = draft.header ∧
      container.levels.toList = block.orderedEntries draft.header.shape draft.index := by
  rcases decode_cases draft.write with ⟨error, hrefused, _⟩ | ⟨_, container, haccepted, hdecoded⟩
  · rw [hchain.refusal?_write] at hrefused
    cases hrefused
  have hheader : container.header = draft.header := by
    apply Header.toRecord_injective ktx2Identifier
    rw [hdecoded.record_eq, draft.ofBlock_write]
  have hshape : container.shape = draft.header.shape := congrArg Header.shape hheader
  have hblock : container.block = block := by
    obtain ⟨format, hformat, hblock⟩ := hchain.format
    have hsame := hdecoded.format_eq
    rw [hheader, hformat] at hsame
    have hlayout := hdecoded.block_eq
    rw [← Option.some.inj hsame, hblock] at hlayout
    exact (Option.some.inj hlayout).symm
  refine ⟨container, haccepted, hdecoded, hheader, ?_⟩
  rw [hdecoded.levels_eq, hblock, hshape, hheader, hchain.storedLevelCount_eq, draft.indexAt_write]

/-- A written mip chain is read back: its header as it was, one level for each payload, and each
payload at its own level. Only an index with the base level first whose payloads are all equally
long is read in the wrong order. -/
theorem decode_write (hchain : draft.IsMipChain block) :
    ∃ container, decode draft.write = .ok container ∧ container.header = draft.header ∧
      container.levelCount.toNat = draft.payloads.length ∧
      (draft.order = .smallestFirst → ∀ mip (hmip : mip < draft.payloads.length),
        container.levelData (.ofNat mip) = .ok draft.payloads[mip]) ∧
      (draft.order = .baseFirst →
        draft.payloads.head?.map ByteArray.size ≠ draft.payloads.getLast?.map ByteArray.size →
        ∀ mip (hmip : mip < draft.payloads.length),
          container.levelData (.ofNat mip) = .ok draft.payloads[mip]) ∧
      (draft.order = .baseFirst →
        (∀ payload ∈ draft.payloads, ∀ other ∈ draft.payloads, payload.size = other.size) →
        ∀ mip (hmip : mip < draft.payloads.length), container.levelData (.ofNat mip) =
          .ok draft.payloads[draft.payloads.length - 1 - mip]) := by
  obtain ⟨container, haccepted, hdecoded, hheader, hlevels⟩ := exists_decode_write hchain
  have hwritten := Draft.payload_entries hchain.addressable
  have hreversed : draft.entries.reverse.map (LevelEntry.payload draft.write) = draft.payloads := by
    rw [List.map_reverse, hwritten, List.reverse_reverse]
  rw [hchain.orderedEntries_index] at hlevels
  refine ⟨container, haccepted, hheader, ?_, ?_, ?_, ?_⟩
  · rw [hdecoded.toNat_levelCount, hdecoded.size_levels, hheader, ← Header.toNat_storedLevelCount,
      hchain.storedLevelCount_eq]
  · intro horder mip hmip
    rw [if_neg (fun h => by simp [horder] at h)] at hlevels
    rw [← hlevels] at hreversed
    exact hdecoded.levelData_eq hreversed hmip
  · intro _ hdiffer mip hmip
    rw [if_neg (fun h => hdiffer (hchain.ends_eq_iff.mpr h.2))] at hlevels
    rw [← hlevels] at hreversed
    exact hdecoded.levelData_eq hreversed hmip
  · intro horder hequal mip hmip
    have hends : draft.payloads.head?.map ByteArray.size =
        draft.payloads.getLast?.map ByteArray.size := by
      have hne : draft.payloads ≠ [] := List.ne_nil_of_length_pos hchain.nonempty
      rw [List.head?_eq_some_head hne, List.getLast?_eq_some_getLast hne, Option.map_some,
        Option.map_some, hequal _ (List.head_mem hne) _ (List.getLast_mem hne)]
    rw [if_pos ⟨horder, hchain.ends_eq_iff.mp hends⟩] at hlevels
    rw [← hlevels] at hwritten
    have hinside : mip < draft.payloads.reverse.length := by simpa using hmip
    rw [hdecoded.levelData_eq hwritten hinside, List.getElem_reverse]

end Container

theorem Draft.isMipChain_grayPair {width : UInt32} {base top : Bytes} {order : IndexOrder}
    (hbase : ∃ level, LevelLayout.compute ⟨1, 1, 1⟩ ⟨width, 1, 0, 0, 1⟩ 0 = .ok level ∧
      level.byteSize? = some base.size)
    (htop : ∃ level, LevelLayout.compute ⟨1, 1, 1⟩ ⟨width, 1, 0, 0, 1⟩ 1 = .ok level ∧
      level.byteSize? = some top.size)
    (haddressable : (grayPair width base top order).write.size < 2 ^ 64) :
    (grayPair width base top order).IsMipChain ⟨1, 1, 1⟩ where
  format := ⟨.r8Unorm, rfl, rfl⟩
  plain := rfl
  view := ⟨_, rfl⟩
  extent := ⟨_, rfl⟩
  nonempty := Nat.zero_lt_two
  count := .inl rfl
  filled := by
    intro mip hmip
    match mip, hmip with
    | 0, _ => exact hbase
    | 1, _ => exact htop
  addressable := haddressable

/-- Two different payloads are read back in either order of the index, two equally long ones with
the base level first are exchanged. -/
theorem Container.decode_write_grayPairs :
    (∃ container, decode (Draft.twoTexels .smallestFirst).write = .ok container ∧
      container.levelData 1 = .ok ⟨#[15]⟩) ∧
    (∃ container, decode (Draft.twoTexels .baseFirst).write = .ok container ∧
      container.levelData 1 = .ok ⟨#[15]⟩) ∧
    ∃ container, decode (Draft.grayPair 1 ⟨#[10]⟩ ⟨#[20]⟩ .baseFirst).write = .ok container ∧
      container.levelData 1 = .ok ⟨#[10]⟩ := by
  have htwoTexels : ∀ order, (Draft.twoTexels order).IsMipChain ⟨1, 1, 1⟩ := by
    intro order
    apply Draft.isMipChain_grayPair ⟨_, rfl, rfl⟩ ⟨_, rfl, rfl⟩
    cases order <;> decide +kernel
  have hequal : (Draft.grayPair 1 ⟨#[10]⟩ ⟨#[20]⟩ .baseFirst).IsMipChain ⟨1, 1, 1⟩ := by
    apply Draft.isMipChain_grayPair ⟨_, rfl, rfl⟩ ⟨_, rfl, rfl⟩
    decide +kernel
  refine ⟨?_, ?_, ?_⟩
  · obtain ⟨container, haccepted, _, _, hsmallest, _, _⟩ := decode_write (htwoTexels .smallestFirst)
    exact ⟨container, haccepted, hsmallest rfl 1 (by decide)⟩
  · obtain ⟨container, haccepted, _, _, _, hbase, _⟩ := decode_write (htwoTexels .baseFirst)
    exact ⟨container, haccepted, hbase rfl (by decide) 1 (by decide)⟩
  · obtain ⟨container, haccepted, _, _, _, _, hmirrored⟩ := decode_write hequal
    exact ⟨container, haccepted, hmirrored rfl (by decide) 1 (by decide)⟩

end GpuTexture
