import Mathlib
import GpuTexture.Proofs.ContainerBytes
import GpuTexture.Proofs.LevelOrder
import GpuTexture.Proofs.ShapeClasses

/-!
# Which bytes are a container

Decoding is a list of ten checks on the bytes, of which the first that fails names the refusal:
`refusal?`. Bytes that pass all of them are accepted, and `Container.DecodedFrom` is all that their
container holds.
-/

namespace GpuTexture

theorem Supercompression.toWord_eq_zero_iff {scheme : Supercompression} :
    scheme.toWord = 0 ↔ scheme = .none := by
  cases scheme <;> decide

namespace Header

theorem ofRecord_of_large {record : HeaderRecord} (h : 3 < record.scheme) :
    ofRecord record = .error record.scheme := by
  have hnone : Supercompression.ofWord? record.scheme = none := by
    unfold Supercompression.ofWord?
    split
    all_goals first | rfl | (rename_i heq; rw [heq] at h; revert h; decide)
  rw [ofRecord, hnone]

theorem exists_ofRecord {record : HeaderRecord} (h : ¬ 3 < record.scheme) :
    ∃ header, ofRecord record = .ok header ∧ header.toRecord record.identifier = record := by
  have hscheme : ∃ scheme, Supercompression.ofWord? record.scheme = some scheme ∧
      scheme.toWord = record.scheme := by
    unfold Supercompression.ofWord?
    split
    all_goals try exact ⟨_, rfl, by symm; assumption⟩
    grind
  obtain ⟨scheme, hfound, hword⟩ := hscheme
  rw [ofRecord, hfound]
  refine ⟨_, rfl, ?_⟩
  rw [toRecord, hword]

theorem toRecord_injective (identifier : Bytes) : Function.Injective (toRecord identifier) := by
  intro header other hsame
  have hread := ofRecord_toRecord identifier header
  rw [hsame, ofRecord_toRecord] at hread
  exact (Except.ok.inj hread).symm

theorem toNat_storedLevelCount (header : Header) :
    header.storedLevelCount.toNat = max 1 header.levelCount.toNat :=
  toNat_max_one header.levelCount

end Header

/-- A header that stands at the start of bytes. -/
structure Header.ReadFrom (header : Header) (bytes : Bytes) : Prop where
  identifier_eq : bytes.extract 0 12 = ktx2Identifier
  long : 80 ≤ bytes.size
  ofRecord_eq : Header.ofRecord (HeaderRecord.ofBlock bytes) = .ok header
  record_eq : header.toRecord ktx2Identifier = HeaderRecord.ofBlock bytes

theorem Header.exists_readFrom {bytes : Bytes} (hidentifier : bytes.extract 0 12 = ktx2Identifier)
    (hlong : 80 ≤ bytes.size) (hscheme : ¬ 3 < (HeaderRecord.ofBlock bytes).scheme) :
    ∃ header : Header, header.ReadFrom bytes := by
  obtain ⟨header, hheader, hrecord⟩ := Header.exists_ofRecord hscheme
  have hsame : (HeaderRecord.ofBlock bytes).identifier = ktx2Identifier := hidentifier
  rw [hsame] at hrecord
  exact ⟨header, hidentifier, hlong, hheader, hrecord⟩

/-- The facts of a header whose fields are all in order. -/
structure Header.HasFacts (header : Header) (facts : HeaderFacts) : Prop where
  format_eq : VkFormat.toFormat? header.vkFormat = some facts.format
  block_eq : facts.format.blockLayout? = some facts.block
  scheme_eq : header.scheme = .none
  view_eq : header.shape.viewDimension = .ok facts.view
  extent_eq : header.shape.baseExtent = .ok facts.extent
  slices_lt : header.shape.slices 0 < 2 ^ 32

namespace Header.HasFacts

variable {header : Header} {facts : HeaderFacts}

private theorem facts_eq (hsound : header.HasFacts facts) : header.facts = .ok facts := by
  have hview := hsound.view_eq
  have hextent := hsound.extent_eq
  simp [Header.facts, hsound.format_eq, hsound.block_eq, hsound.scheme_eq, hview, hextent]

theorem hasSides (hsound : header.HasFacts facts) : facts.block.HasSides :=
  TextureFormat.hasSides_of_blockLayout? hsound.block_eq

/-- The format code and the five counts decide all facts. -/
theorem unique (hsound : header.HasFacts facts) {other : Header} {otherFacts : HeaderFacts}
    (hother : other.HasFacts otherFacts) (hcode : other.vkFormat = header.vkFormat)
    (hshape : other.shape = header.shape) : otherFacts = facts := by
  have hformat := hother.format_eq
  rw [hcode, hsound.format_eq, Option.some.injEq] at hformat
  have hblock := hother.block_eq
  rw [← hformat, hsound.block_eq, Option.some.injEq] at hblock
  have hview := hother.view_eq
  rw [hshape, hsound.view_eq, Except.ok.injEq] at hview
  have hextent := hother.extent_eq
  rw [hshape, hsound.extent_eq, Except.ok.injEq] at hextent
  cases facts
  cases otherFacts
  simp_all

end Header.HasFacts

def HeaderRecord.shape (record : HeaderRecord) : Shape :=
  ⟨record.width, record.height, record.depth, record.layers, record.faces⟩

def HeaderRecord.entryCount (record : HeaderRecord) : Nat :=
  max 1 record.levelCount.toNat

/-- Why the level index behind a sound header refuses bytes: it is cut off, its base level has no
layout, or an entry reaches beyond the end. -/
def indexRefusal? (block : BlockLayout) (shape : Shape) (count : Nat) (bytes : Bytes) :
    Option ContainerError :=
  if bytes.size < 80 + 24 * count then
    some (.truncated (80 + 24 * ((bytes.size - 80) / 24)) 24 bytes.size)
  else if ¬ block.Fits shape 0 then some (.texture (.layoutOverflow 0))
  else
    let levels := block.orderedEntries shape (LevelEntry.indexAt count 80 bytes)
    (levels.find? fun entry =>
      decide (bytes.size < entry.byteOffset.toNat + entry.byteLength.toNat)).map fun entry =>
        .truncated entry.byteOffset.toNat entry.byteLength.toNat bytes.size

/-- Why bytes are refused as a container. -/
def refusal? (bytes : Bytes) : Option ContainerError :=
  let record := HeaderRecord.ofBlock bytes
  let shape := record.shape
  if bytes.extract 0 12 ≠ ktx2Identifier then
    some (.invalidIdentifier (bytes.extract 0 (min 12 bytes.size)))
  else if bytes.size < 80 then some (.truncated 0 80 bytes.size)
  else if 3 < record.scheme then some (.texture (.unsupportedCompression record.scheme))
  else match VkFormat.toFormat? record.vkFormat with
  | none => some (.unsupportedFormat record.vkFormat)
  | some format =>
    match format.blockLayout? with
    | none => some (.texture (.formatNotCopyable format))
    | some block =>
      if record.scheme ≠ 0 then some (.texture (.unsupportedCompression record.scheme))
      else if shape.HasNoAxis ∨
          2 ^ 32 ≤ max 1 shape.faces.toNat * max 1 shape.layers.toNat * max 1 shape.depth.toNat then
        some (.texture (.invalidShape shape))
      else indexRefusal? block shape record.entryCount bytes

namespace Container

/-- What a container decoded from `bytes` holds. -/
structure DecodedFrom (bytes : Bytes) (container : Container) : Prop where
  bytes_eq : container.bytes = bytes
  record_eq : container.header.toRecord ktx2Identifier = HeaderRecord.ofBlock bytes
  scheme_eq : container.header.scheme = .none
  format_eq : VkFormat.toFormat? container.header.vkFormat = some container.format
  block_eq : container.format.blockLayout? = some container.block
  view_eq : container.shape.viewDimension = .ok container.view
  extent_eq : container.shape.baseExtent = .ok container.extent
  slices_lt : container.shape.slices 0 < 2 ^ 32
  index_le : 80 + 24 * container.header.storedLevelCount.toNat ≤ bytes.size
  fits : container.block.Fits container.shape 0
  levels_eq : container.levels.toList = container.block.orderedEntries container.shape
    (LevelEntry.indexAt container.header.storedLevelCount.toNat 80 bytes)
  ranges_eq : container.ranges.toList =
    container.levels.toList.map fun entry => (entry.byteOffset.toNat, entry.byteEnd)
  inside : ∀ entry ∈ container.levels.toList, entry.byteEnd ≤ bytes.size

theorem readHeader_eq (bytes : Bytes) : readHeader bytes =
    if bytes.extract 0 12 ≠ ktx2Identifier then
      .error (.invalidIdentifier (bytes.extract 0 (min 12 bytes.size)))
    else if bytes.size < 80 then .error (.truncated 0 80 bytes.size)
    else (Header.ofRecord (HeaderRecord.ofBlock bytes)).mapError
        (fun scheme => ContainerError.texture (.unsupportedCompression scheme)) >>=
      fun header => .ok (header, ⟨bytes, 80⟩) := by
  have hshort : bytes.extract 0 (min 12 bytes.size) = bytes.extract 0 12 := by
    rcases Nat.le_total 12 bytes.size with hlong | hlong
    · rw [Nat.min_eq_left hlong]
    · rw [Nat.min_eq_right hlong, ByteArray.extract_zero_size, ← Nat.max_eq_left hlong,
        ByteArray.extract_zero_max_size]
  by_cases hidentifier : bytes.extract 0 12 ≠ ktx2Identifier
  · have hother : isKtx2 bytes = false := decide_eq_false hidentifier
    rw [if_pos hidentifier, hshort, readHeader, hother]
    rfl
  have hopens : isKtx2 bytes = true := decide_eq_true (not_not.mp hidentifier)
  have hremaining : (Cursor.ofBytes bytes).remaining = bytes.size := rfl
  rw [if_neg hidentifier, readHeader, hopens, Reading.answer, HeaderRecord.read, HeaderRecord.size,
    EStateM.run_map]
  by_cases hlong : bytes.size < 80
  · rw [if_pos hlong, Reading.bytes_of_lt (by omega)]
    rfl
  · rw [if_neg hlong, Reading.bytes_of_le (by omega), EStateM.Result.map_ok]
    dsimp only [Cursor.ofBytes, Cursor.advance]
    rw [Nat.zero_add, HeaderRecord.ofBlock_extract (by omega)]
    rfl

variable {bytes : Bytes}

private theorem decode_of_readFrom {header : Header} (hread : header.ReadFrom bytes) :
    decode bytes = header.facts >>= fun facts =>
      let entries := LevelEntry.readMany header.storedLevelCount.toNat
      (entries.answer ⟨bytes, 80⟩).mapError .ofReadError >>=
        fun (entries, _) => (baseFirst facts.block header.shape entries).mapError .texture >>=
          assemble bytes header facts := by
  rw [decode, readHeader_eq, if_neg (not_not.mpr hread.identifier_eq),
    if_neg (Nat.not_lt.mpr hread.long), hread.ofRecord_eq]
  rfl

theorem decode_of_hasFacts {header : Header} (hread : header.ReadFrom bytes) {facts : HeaderFacts}
    (hsound : header.HasFacts facts) :
    decode bytes =
      if bytes.size < 80 + 24 * header.storedLevelCount.toNat then
        .error (.truncated (80 + 24 * ((bytes.size - 80) / 24)) 24 bytes.size)
      else if ¬ facts.block.Fits header.shape 0 then .error (.texture (.layoutOverflow 0))
      else assemble bytes header facts (facts.block.orderedEntries header.shape
        (LevelEntry.indexAt header.storedLevelCount.toNat 80 bytes)) := by
  have hcount : 0 < header.storedLevelCount.toNat := by
    rw [Header.toNat_storedLevelCount]
    omega
  have hlength := LevelEntry.length_indexAt header.storedLevelCount.toNat 80 bytes
  have hsmall := header.storedLevelCount.toNat_lt
  rw [decode_of_readFrom hread, hsound.facts_eq, Outcome.ok_bind]
  dsimp only
  rw [Reading.answer, LevelEntry.readMany_eq hread.long]
  by_cases hindex : bytes.size < 80 + 24 * header.storedLevelCount.toNat
  · rw [if_pos hindex, if_neg (Nat.not_le.mpr hindex)]
    rfl
  rw [if_neg hindex, if_pos (Nat.not_lt.mp hindex)]
  dsimp only
  rw [Outcome.mapError_ok, Outcome.ok_bind]
  dsimp only
  rw [BlockLayout.baseFirst_eq hsound.hasSides hsound.slices_lt (by omega) (by omega)]
  by_cases hfits : facts.block.Fits header.shape 0
  · rw [if_pos hfits, if_neg (not_not.mpr hfits)]
    rfl
  · rw [if_neg hfits, if_pos hfits]
    rfl

theorem assemble_eq_error {header : Header} {facts : HeaderFacts} {levels : List LevelEntry}
    {entry : LevelEntry} (hfirst : levels.find? (fun entry =>
      decide (bytes.size < entry.byteOffset.toNat + entry.byteLength.toNat)) = some entry) :
    assemble bytes header facts levels =
      .error (.truncated entry.byteOffset.toNat entry.byteLength.toNat bytes.size) := by
  have hranges : payloadRanges bytes.size levels =
      .error (.truncated entry.byteOffset.toNat entry.byteLength.toNat bytes.size) := by
    induction levels with
    | nil => simp at hfirst
    | cons head rest ih =>
      rw [List.find?_cons] at hfirst
      by_cases houtside : bytes.size < head.byteOffset.toNat + head.byteLength.toNat
      · rw [decide_eq_true houtside] at hfirst
        cases hfirst
        have hnone : entry.rangeIn? bytes.size = none := if_neg (Nat.not_le.mpr houtside)
        rw [payloadRanges, hnone]
      · rw [decide_eq_false houtside] at hfirst
        have hsome : head.rangeIn? bytes.size = some (head.byteOffset.toNat, head.byteEnd) :=
          if_pos (Nat.not_lt.mp houtside)
        rw [payloadRanges, hsome, ih hfirst]
        rfl
  unfold assemble
  split
  · next error hfound =>
    rw [hranges] at hfound
    rw [Except.error.inj hfound]
  · next ranges hfound =>
    rw [hranges] at hfound
    cases hfound

theorem exists_assemble (header : Header) (facts : HeaderFacts) {levels : List LevelEntry}
    (hinside : ∀ entry ∈ levels, entry.byteEnd ≤ bytes.size) :
    ∃ container, assemble bytes header facts levels = .ok container ∧ container.bytes = bytes ∧
      container.header = header ∧ container.format = facts.format ∧
      container.block = facts.block ∧ container.view = facts.view ∧
      container.extent = facts.extent ∧ container.levels.toList = levels ∧
      container.ranges.toList =
        levels.map fun entry => (entry.byteOffset.toNat, entry.byteEnd) := by
  have hranges := payloadRanges_eq_ok_iff.mpr ⟨hinside, rfl⟩
  unfold assemble
  split
  · next error hfound =>
    rw [hranges] at hfound
    cases hfound
  · next ranges hfound =>
    rw [hranges] at hfound
    cases hfound
    exact ⟨_, rfl, rfl, rfl, rfl, rfl, rfl, rfl, rfl, rfl⟩

private theorem exists_hasFacts {header : Header} {format : TextureFormat} {block : BlockLayout}
    (hformat : VkFormat.toFormat? header.vkFormat = some format)
    (hblock : format.blockLayout? = some block) (hscheme : header.scheme = .none)
    (haxis : ¬ header.shape.HasNoAxis) (hslices : header.shape.slices 0 < 2 ^ 32) :
    ∃ facts, header.HasFacts facts ∧ facts.block = block := by
  obtain ⟨view, hview⟩ := Shape.exists_viewDimension haxis
  have hextent := Shape.baseExtent_eq hslices
  exact ⟨⟨format, block, view, _⟩, ⟨hformat, hblock, hscheme, hview, hextent, hslices⟩, rfl⟩

private theorem facts_eq_error {header : Header} {format : TextureFormat} {block : BlockLayout}
    (hformat : VkFormat.toFormat? header.vkFormat = some format)
    (hblock : format.blockLayout? = some block) (hscheme : header.scheme = .none)
    (hinvalid : header.shape.HasNoAxis ∨ 2 ^ 32 ≤ header.shape.slices 0) :
    header.facts = .error (.texture (.invalidShape header.shape)) := by
  by_cases haxis : header.shape.HasNoAxis
  · simp [Header.facts, hformat, hblock, hscheme, Shape.viewDimension_of_hasNoAxis haxis]
  · obtain ⟨view, hview⟩ := Shape.exists_viewDimension haxis
    have hextent := Shape.baseExtent_of_large (hinvalid.resolve_left haxis)
    simp [Header.facts, hformat, hblock, hscheme, hview, hextent]

private theorem decode_cases_of_hasFacts {header : Header} (hread : header.ReadFrom bytes)
    {facts : HeaderFacts} (hsound : header.HasFacts facts) :
    let refused := indexRefusal? facts.block header.shape header.storedLevelCount.toNat bytes
    (∃ error, refused = some error ∧ decode bytes = .error error) ∨
      refused = none ∧ ∃ container, decode bytes = .ok container ∧ container.DecodedFrom bytes := by
  dsimp only
  rw [indexRefusal?, decode_of_hasFacts hread hsound]
  by_cases hindex : bytes.size < 80 + 24 * header.storedLevelCount.toNat
  · left
    exact ⟨_, if_pos hindex, if_pos hindex⟩
  rw [if_neg hindex, if_neg hindex]
  by_cases hfits : ¬ facts.block.Fits header.shape 0
  · left
    exact ⟨_, if_pos hfits, if_pos hfits⟩
  rw [if_neg hfits, if_neg hfits]
  dsimp only
  generalize hlevels : facts.block.orderedEntries header.shape
    (LevelEntry.indexAt header.storedLevelCount.toNat 80 bytes) = levels
  cases hfirst : levels.find? (fun entry =>
      decide (bytes.size < entry.byteOffset.toNat + entry.byteLength.toNat)) with
  | some entry =>
    left
    exact ⟨_, rfl, assemble_eq_error hfirst⟩
  | none =>
    right
    have hinside : ∀ entry ∈ levels, entry.byteEnd ≤ bytes.size := by
      intro entry hentry
      have hnot := List.find?_eq_none.mp hfirst entry hentry
      exact Nat.not_lt.mp (mt decide_eq_true hnot)
    obtain ⟨container, haccepted, hbytes, hheader, hformat, hblock, hview, hextent, hlist,
      hranges⟩ := exists_assemble header facts hinside
    have hshape : container.shape = header.shape := congrArg Header.shape hheader
    refine ⟨rfl, container, haccepted, ?_⟩
    exact
      { bytes_eq := hbytes
        record_eq := by rw [hheader, hread.record_eq]
        scheme_eq := by rw [hheader, hsound.scheme_eq]
        format_eq := by rw [hheader, hformat, hsound.format_eq]
        block_eq := by rw [hformat, hblock, hsound.block_eq]
        view_eq := by rw [hshape, hview, hsound.view_eq]
        extent_eq := by rw [hshape, hextent, hsound.extent_eq]
        slices_lt := by rw [hshape]; exact hsound.slices_lt
        index_le := by rw [hheader]; exact Nat.not_lt.mp hindex
        fits := by rw [hblock, hshape]; exact not_not.mp hfits
        levels_eq := by rw [hlist, hblock, hshape, hheader, hlevels]
        ranges_eq := by rw [hranges, hlist]
        inside := by rw [hlist]; exact hinside }

/-- Behind a header whose compression scheme is known, the other checks are those of its facts and of
the index. -/
private theorem decode_cases_of_readFrom {header : Header} (hread : header.ReadFrom bytes)
    (hscheme : ¬ 3 < (HeaderRecord.ofBlock bytes).scheme) :
    (∃ error, refusal? bytes = some error ∧ decode bytes = .error error) ∨
      refusal? bytes = none ∧
        ∃ container, decode bytes = .ok container ∧ container.DecodedFrom bytes := by
  unfold refusal?
  dsimp only
  rw [if_neg (not_not.mpr hread.identifier_eq), if_neg (Nat.not_lt.mpr hread.long), if_neg hscheme]
  have hdecode := decode_of_readFrom hread
  have hcode : (HeaderRecord.ofBlock bytes).vkFormat = header.vkFormat :=
    congrArg HeaderRecord.vkFormat hread.record_eq.symm
  have hshape : (HeaderRecord.ofBlock bytes).shape = header.shape :=
    congrArg HeaderRecord.shape hread.record_eq.symm
  have hword : (HeaderRecord.ofBlock bytes).scheme = header.scheme.toWord :=
    congrArg HeaderRecord.scheme hread.record_eq.symm
  have hcount : (HeaderRecord.ofBlock bytes).entryCount = header.storedLevelCount.toNat := by
    rw [Header.toNat_storedLevelCount]
    exact congrArg HeaderRecord.entryCount hread.record_eq.symm
  rw [hcode, hshape, hword, hcount, ← Shape.slices_zero]
  cases hformat : VkFormat.toFormat? header.vkFormat with
  | none =>
    left
    refine ⟨_, rfl, ?_⟩
    rw [hdecode]
    simp [Header.facts, hformat]
  | some format =>
  dsimp only
  cases hblock : format.blockLayout? with
  | none =>
    left
    refine ⟨_, rfl, ?_⟩
    rw [hdecode]
    simp [Header.facts, hformat, hblock]
  | some block =>
  dsimp only
  by_cases hnone : header.scheme.toWord ≠ 0
  · left
    refine ⟨_, if_pos hnone, ?_⟩
    have hother : header.scheme ≠ .none := fun h => hnone (by rw [h]; rfl)
    rw [hdecode]
    simp [Header.facts, hformat, hblock, hother]
  rw [if_neg hnone]
  have hplain : header.scheme = .none := Supercompression.toWord_eq_zero_iff.mp (not_not.mp hnone)
  by_cases hinvalid : header.shape.HasNoAxis ∨ 2 ^ 32 ≤ header.shape.slices 0
  · left
    refine ⟨_, if_pos hinvalid, ?_⟩
    rw [hdecode, facts_eq_error hformat hblock hplain hinvalid]
    rfl
  rw [if_neg hinvalid]
  obtain ⟨haxis, hslices⟩ := not_or.mp hinvalid
  obtain ⟨facts, hsound, rfl⟩ :=
    exists_hasFacts hformat hblock hplain haxis (Nat.lt_of_not_le hslices)
  exact decode_cases_of_hasFacts hread hsound

/-- Either one of the ten checks refuses the bytes, and so does decoding, or none does and they are
decoded. -/
theorem decode_cases (bytes : Bytes) :
    (∃ error, refusal? bytes = some error ∧ decode bytes = .error error) ∨
      refusal? bytes = none ∧
        ∃ container, decode bytes = .ok container ∧ container.DecodedFrom bytes := by
  by_cases hidentifier : bytes.extract 0 12 ≠ ktx2Identifier
  · left
    refine ⟨_, if_pos hidentifier, ?_⟩
    rw [decode, readHeader_eq, if_pos hidentifier]
    rfl
  by_cases hlong : bytes.size < 80
  · left
    refine ⟨_, (if_neg hidentifier).trans (if_pos hlong), ?_⟩
    rw [decode, readHeader_eq, if_neg hidentifier, if_pos hlong]
    rfl
  by_cases hscheme : 3 < (HeaderRecord.ofBlock bytes).scheme
  · left
    refine ⟨_, (if_neg hidentifier).trans ((if_neg hlong).trans (if_pos hscheme)), ?_⟩
    rw [decode, readHeader_eq, if_neg hidentifier, if_neg hlong, Header.ofRecord_of_large hscheme]
    rfl
  obtain ⟨header, hread⟩ :=
    Header.exists_readFrom (not_not.mp hidentifier) (Nat.not_lt.mp hlong) hscheme
  exact decode_cases_of_readFrom hread hscheme

theorem refusal?_eq_invalidIdentifier_iff {actual : Bytes} :
    refusal? bytes = some (.invalidIdentifier actual) ↔
      bytes.extract 0 12 ≠ ktx2Identifier ∧ actual = bytes.extract 0 (min 12 bytes.size) := by
  unfold refusal?
  dsimp only
  by_cases hidentifier : bytes.extract 0 12 ≠ ktx2Identifier
  · rw [if_pos hidentifier]
    simp [hidentifier, eq_comm]
  · rw [if_neg hidentifier]
    constructor
    · intro hrefused
      unfold indexRefusal? at hrefused
      repeat' split at hrefused
      all_goals simp at hrefused
    · intro hrefused
      obtain ⟨hother, _⟩ := hrefused
      exact absurd hother hidentifier

private theorem eq_zero_of_refusal?_eq_layoutOverflow {mip : UInt32}
    (hrefused : refusal? bytes = some (.texture (.layoutOverflow mip))) : mip = 0 := by
  unfold refusal? indexRefusal? at hrefused
  dsimp only at hrefused
  repeat' split at hrefused
  all_goals simp at hrefused
  exact hrefused.symm

theorem DecodedFrom.of_decode {container : Container} (haccepted : decode bytes = .ok container) :
    container.DecodedFrom bytes := by
  rcases decode_cases bytes with ⟨error, _, hrefused⟩ | ⟨_, other, hother, hdecoded⟩
  · rw [haccepted] at hrefused
    cases hrefused
  · rw [haccepted] at hother
    cases hother
    exact hdecoded

theorem DecodedFrom.readFrom {container : Container} (hdecoded : container.DecodedFrom bytes) :
    container.header.ReadFrom bytes where
  identifier_eq := (congrArg HeaderRecord.identifier hdecoded.record_eq).symm
  long := Nat.le_trans (Nat.le_add_right _ _) hdecoded.index_le
  ofRecord_eq := by rw [← hdecoded.record_eq, Header.ofRecord_toRecord]
  record_eq := hdecoded.record_eq

theorem DecodedFrom.hasFacts {container : Container} (hdecoded : container.DecodedFrom bytes) :
    container.header.HasFacts ⟨container.format, container.block, container.view, container.extent⟩ :=
  ⟨hdecoded.format_eq, hdecoded.block_eq, hdecoded.scheme_eq, hdecoded.view_eq, hdecoded.extent_eq,
    hdecoded.slices_lt⟩

theorem decode_eq_error_iff {error : ContainerError} :
    decode bytes = .error error ↔ refusal? bytes = some error := by
  rcases decode_cases bytes with ⟨other, hother, hrefused⟩ | ⟨hnone, container, haccepted, _⟩
  · rw [hother, hrefused, Option.some.injEq, Except.error.injEq]
  · rw [hnone, haccepted]
    constructor <;> nofun

/-- Decoding refuses exactly what one of the ten checks refuses, with the refusal of the first that
fails, and accepts everything else. Bytes open with the identifier exactly when they are not refused
for it, and no level but the base level is ever refused for its layout. -/
theorem decode_eq_refusal (bytes : Bytes) :
    (∀ error, decode bytes = .error error ↔ refusal? bytes = some error) ∧
      ((∃ container, decode bytes = .ok container ∧ container.DecodedFrom bytes) ↔
        refusal? bytes = none) ∧
      (isKtx2 bytes = true ↔ ∀ actual, decode bytes ≠ .error (.invalidIdentifier actual)) ∧
      ∀ mip, mip = 0 ∨ decode bytes ≠ .error (.texture (.layoutOverflow mip)) := by
  refine ⟨fun error => decode_eq_error_iff, ?_, ?_, ?_⟩
  · constructor
    · intro hdecoded
      obtain ⟨container, haccepted, _⟩ := hdecoded
      rcases decode_cases bytes with ⟨error, _, hrefused⟩ | ⟨hnone, _⟩
      · rw [haccepted] at hrefused
        cases hrefused
      · exact hnone
    · intro hnone
      rcases decode_cases bytes with ⟨error, hsome, _⟩ | ⟨_, hdecoded⟩
      · rw [hnone] at hsome
        cases hsome
      · exact hdecoded
  · have hopens : isKtx2 bytes = true ↔ bytes.extract 0 12 = ktx2Identifier := decide_eq_true_iff
    rw [hopens]
    constructor
    · intro hidentifier actual hrefused
      rw [decode_eq_error_iff, refusal?_eq_invalidIdentifier_iff] at hrefused
      exact hrefused.1 hidentifier
    · intro hnever
      by_contra hidentifier
      exact hnever _ (decode_eq_error_iff.mpr
        (refusal?_eq_invalidIdentifier_iff.mpr ⟨hidentifier, rfl⟩))
  · intro mip
    by_cases hbase : mip = 0
    · exact .inl hbase
    · right
      intro hrefused
      exact hbase (eq_zero_of_refusal?_eq_layoutOverflow (decode_eq_error_iff.mp hrefused))

end Container

end GpuTexture
