import Mathlib
import GpuTexture.Ktx2.Walk
import GpuTexture.Proofs.Decoding

/-!
# Records and their fields

A record of a container is read as one block or field by field. Both readings take the same bytes
and yield the same record, and the record is stored in exactly those bytes. They differ where the
bytes run out: a block is refused at its start, a field at the field that is cut off.
-/

namespace GpuTexture

namespace Bytes

def runsAt : List Nat → Nat → Bytes → List Bytes
  | [], _, _ => []
  | width :: rest, position, bytes =>
    bytes.extract position (position + width) :: runsAt rest (position + width) bytes

theorem concat_append (runs others : List Bytes) :
    concat (runs ++ others) = concat runs ++ concat others := by
  induction runs with
  | nil => simp
  | cons run rest ih => rw [List.cons_append, concat_cons, ih, concat_cons, ByteArray.append_assoc]

private theorem concat_runsAt {widths : List Nat} {position : Nat} {bytes : Bytes}
    (hfit : position + widths.sum ≤ bytes.size) :
    concat (runsAt widths position bytes) = bytes.extract position (position + widths.sum) := by
  induction widths generalizing position with
  | nil => simp [runsAt]
  | cons width rest ih =>
    rw [List.sum_cons] at hfit ⊢
    rw [runsAt, concat_cons, ih (by omega), ← Nat.add_assoc]
    exact (ByteArray.extract_eq_extract_append_extract _ (by omega) (by omega)).symm

private theorem concat_runsAt_zero {widths : List Nat} {bytes : Bytes}
    (hsize : bytes.size = widths.sum) :
    concat (runsAt widths 0 bytes) = bytes := by
  rw [concat_runsAt (by omega), Nat.zero_add, ← hsize, ByteArray.extract_zero_size]

private theorem word32At_zero_extract {bytes : Bytes} {position size offset : Nat}
    (hfit : position + size ≤ bytes.size) (hlast : offset + 4 ≤ size) :
    word32At 0 (bytes.extract (position + offset) (position + (offset + 4))) =
      word32At offset (bytes.extract position (position + size)) := by
  rw [word32At_extract (by omega) (by omega), word32At_extract hfit (by omega), Nat.add_zero]

private theorem word64At_zero_extract {bytes : Bytes} {position size offset : Nat}
    (hfit : position + size ≤ bytes.size) (hlast : offset + 8 ≤ size) :
    word64At 0 (bytes.extract (position + offset) (position + (offset + 8))) =
      word64At offset (bytes.extract position (position + size)) := by
  rw [word64At_extract (by omega) (by omega), word64At_extract hfit (by omega), Nat.add_zero]

theorem ofWord32_word32At {bytes : Bytes} {position : Nat} (hfit : position + 4 ≤ bytes.size) :
    ofWord32 (word32At position bytes) = bytes.extract position (position + 4) := by
  have hsmall : natAt 4 position bytes < UInt32.size := natAt_lt 4 position bytes
  rw [ofWord32, word32At, UInt32.toNat_ofNat_of_lt' hsmall, ofNat_natAt hfit]

theorem ofWord64_word64At {bytes : Bytes} {position : Nat} (hfit : position + 8 ≤ bytes.size) :
    ofWord64 (word64At position bytes) = bytes.extract position (position + 8) := by
  have hsmall : natAt 8 position bytes < UInt64.size := natAt_lt 8 position bytes
  rw [ofWord64, word64At, UInt64.toNat_ofNat_of_lt' hsmall, ofNat_natAt hfit]

private theorem extract_append_middle (front middle back : Bytes) :
    (front ++ middle ++ back).extract front.size (front.size + middle.size) = middle := by
  have hshift := ByteArray.extract_append_size_add (a := front) (b := middle ++ back) (i := 0)
    (j := middle.size)
  rw [Nat.add_zero] at hshift
  rw [ByteArray.append_assoc, hshift]
  exact ByteArray.extract_append_eq_left rfl

end Bytes

namespace Cursor

@[simp] theorem remaining_advance (cursor : Cursor) (count : Nat) :
    (cursor.advance count).remaining = cursor.remaining - count := by
  simp only [remaining, length, advance]
  omega

private theorem advance_advance (cursor : Cursor) (first second : Nat) :
    (cursor.advance first).advance second = cursor.advance (first + second) := by
  simp [advance, Nat.add_assoc]

end Cursor

namespace Reading

def runs : List Nat → Reading (List Bytes)
  | [] => pure []
  | width :: rest => do
    let run ← bytes width
    let others ← runs rest
    return run :: others

theorem runs_of_le {widths : List Nat} {cursor : Cursor}
    (henough : widths.sum ≤ cursor.remaining) : (runs widths).run cursor =
      .ok (Bytes.runsAt widths cursor.position cursor.buffer) (cursor.advance widths.sum) := by
  induction widths generalizing cursor with
  | nil => rfl
  | cons width rest ih =>
    rw [List.sum_cons] at henough ⊢
    have hrest : rest.sum ≤ (cursor.advance width).remaining := by
      rw [Cursor.remaining_advance]
      omega
    rw [runs, EStateM.run_bind, bytes_of_le (by omega)]
    dsimp only
    rw [EStateM.run_bind, ih hrest, Cursor.advance_advance]
    rfl

private theorem bytes_append_middle (front block rest : Bytes) :
    let joined := front ++ block ++ rest
    (bytes block.size).run ⟨joined, front.size⟩ =
      .ok block ⟨joined, front.size + block.size⟩ := by
  intro joined
  have henough : block.size ≤ (⟨joined, front.size⟩ : Cursor).remaining := by
    simp only [Cursor.remaining, Cursor.length, joined, ByteArray.size_append]
    omega
  rw [bytes_of_le henough, Bytes.extract_append_middle]
  rfl

/-- Runs are read as long as they are whole, and the first that is cut off is refused where it
starts. -/
theorem runs_of_cut {widths : List Nat} {cursor : Cursor} {index : Nat}
    (hindex : index < widths.length) (hwhole : (widths.take index).sum ≤ cursor.remaining)
    (hcut : cursor.remaining < (widths.take (index + 1)).sum) : (runs widths).run cursor =
      .error ⟨cursor.position + (widths.take index).sum, widths[index], cursor.length⟩
        (cursor.advance (widths.take index).sum) := by
  induction widths generalizing cursor index with
  | nil => cases hindex
  | cons width rest ih =>
    rw [runs, EStateM.run_bind]
    cases index with
    | zero =>
      have hshort : cursor.remaining < width := by simpa using hcut
      rw [bytes_of_lt hshort]
      rfl
    | succ index =>
      rw [List.take_succ_cons, List.sum_cons] at hwhole hcut
      have hnext := @ih (cursor.advance width) index (Nat.lt_of_succ_lt_succ hindex)
        (by rw [Cursor.remaining_advance]; omega) (by rw [Cursor.remaining_advance]; omega)
      rw [bytes_of_le (by omega)]
      dsimp only
      rw [EStateM.run_bind, hnext, List.take_succ_cons, List.sum_cons, ← Nat.add_assoc,
        Cursor.advance_advance]
      rfl

end Reading

private theorem exists_cut {widths : List Nat} {remaining : Nat} (hshort : remaining < widths.sum) :
    ∃ index, index < widths.length ∧ (widths.take index).sum ≤ remaining ∧
      remaining < (widths.take (index + 1)).sum := by
  induction widths generalizing remaining with
  | nil => simp at hshort
  | cons width rest ih =>
    rw [List.sum_cons] at hshort
    by_cases hfirst : remaining < width
    · exact ⟨0, Nat.zero_lt_succ _, by simp, by simpa using hfirst⟩
    · obtain ⟨index, hindex, hwhole, hcut⟩ := @ih (remaining - width) (by omega)
      refine ⟨index + 1, Nat.succ_lt_succ hindex, ?_, ?_⟩
      · rw [List.take_succ_cons, List.sum_cons]
        omega
      · rw [List.take_succ_cons, List.sum_cons]
        omega

/-- Two readings of a record that agree: as one block of `size` bytes, and as fields of the given
widths. -/
structure ReadsFields {record : Type} (size : Nat) (widths : List Nat)
    (read readFields : Reading record) (toBlock : record → Bytes) : Prop where
  sum_widths : widths.sum = size
  /-- Where the bytes are enough, both readings take them and yield the record stored in them. -/
  of_enough : ∀ cursor : Cursor, size ≤ cursor.remaining → ∃ value,
    read.run cursor = .ok value (cursor.advance size) ∧
    readFields.run cursor = .ok value (cursor.advance size) ∧
    toBlock value = cursor.buffer.extract cursor.position (cursor.position + size)
  /-- Where they are not, the block is refused at its start, and the fields at the first that is cut
  off. -/
  of_short : ∀ cursor : Cursor, cursor.remaining < size →
    read.run cursor = .error ⟨cursor.position, size, cursor.length⟩ cursor ∧
    ∃ (index : Nat) (hindex : index < widths.length),
      (widths.take index).sum ≤ cursor.remaining ∧
      cursor.remaining < (widths.take (index + 1)).sum ∧
      readFields.run cursor =
        .error ⟨cursor.position + (widths.take index).sum, widths[index], cursor.length⟩
          (cursor.advance (widths.take index).sum)

section Readings

variable {record : Type} {size : Nat} {widths : List Nat} {ofBlock : Bytes → record}
  {ofRuns : List Bytes → record} {toBlock : record → Bytes} {readFields : Reading record}

private theorem ReadsFields.of_runs (hpos : 0 < size) (hsum : widths.sum = size)
    (hfields : readFields = ofRuns <$> Reading.runs widths)
    (hruns : ∀ bytes position, position + size ≤ bytes.size →
      ofRuns (Bytes.runsAt widths position bytes) =
        ofBlock (bytes.extract position (position + size)))
    (hstored : ∀ block, block.size = size → toBlock (ofBlock block) = block) :
    ReadsFields size widths (ofBlock <$> Reading.bytes size) readFields toBlock where
  sum_widths := hsum
  of_enough := by
    intro cursor henough
    have hinside : cursor.position + size ≤ cursor.buffer.size := by
      simp only [Cursor.remaining, Cursor.length] at henough
      omega
    refine ⟨ofBlock (cursor.buffer.extract cursor.position (cursor.position + size)), ?_, ?_, ?_⟩
    · rw [EStateM.run_map, Reading.bytes_of_le henough, EStateM.Result.map_ok]
    · rw [hfields, EStateM.run_map, Reading.runs_of_le (hsum.trans_le henough),
        EStateM.Result.map_ok, hsum, hruns _ _ hinside]
    · apply hstored
      rw [ByteArray.size_extract]
      omega
  of_short := by
    intro cursor hshort
    constructor
    · rw [EStateM.run_map, Reading.bytes_of_lt hshort, EStateM.Result.map_error]
    · obtain ⟨index, hindex, hwhole, hcut⟩ := exists_cut (hsum.symm ▸ hshort)
      refine ⟨index, hindex, hwhole, hcut, ?_⟩
      rw [hfields, EStateM.run_map, Reading.runs_of_cut hindex hwhole hcut, EStateM.Result.map_error]

end Readings

namespace HeaderRecord

/-- The identifier, thirteen 32-bit words and two 64-bit words. -/
def fieldWidths : List Nat :=
  12 :: List.replicate 13 4 ++ List.replicate 2 8

def ofRuns (runs : List Bytes) : HeaderRecord :=
  let word (field : Nat) := Bytes.word32At 0 (runs.getD field .empty)
  let longWord (field : Nat) := Bytes.word64At 0 (runs.getD field .empty)
  ⟨runs.getD 0 .empty, word 1, word 2, word 3, word 4, word 5, word 6, word 7, word 8, word 9,
    ⟨word 10, word 11⟩, ⟨word 12, word 13⟩, ⟨longWord 14, longWord 15⟩⟩

private theorem readFields_eq_map_runs : readFields = ofRuns <$> Reading.runs fieldWidths := by
  simp only [readFields, fieldWidths, List.replicate, List.cons_append, List.nil_append,
    Reading.runs, Reading.word32, Reading.word64, bind_map_left, map_bind, bind_assoc, pure_bind,
    map_pure]
  rfl

private theorem ofRuns_runsAt {bytes : Bytes} {position : Nat} (hfit : position + 80 ≤ bytes.size) :
    ofRuns (Bytes.runsAt fieldWidths position bytes) =
      ofBlock (bytes.extract position (position + 80)) := by
  simp [ofRuns, ofBlock, fieldWidths, Bytes.runsAt, Nat.add_assoc, List.replicate,
    ← Bytes.word32At_zero_extract hfit, ← Bytes.word64At_zero_extract hfit,
    ByteArray.extract_extract]

theorem toBlock_ofBlock {block : Bytes} (hsize : block.size = 80) :
    (ofBlock block).toBlock = block := by
  have hruns : (ofBlock block).identifier :: (ofBlock block).words.map Bytes.ofWord32 ++
      (ofBlock block).longWords.map Bytes.ofWord64 = Bytes.runsAt fieldWidths 0 block := by
    simp [ofBlock, words, longWords, fieldWidths, Bytes.runsAt, List.replicate,
      Bytes.ofWord32_word32At, Bytes.ofWord64_word64At, hsize]
  have hjoin : (ofBlock block).toBlock = Bytes.concat (Bytes.runsAt fieldWidths 0 block) := by
    rw [← hruns, Bytes.concat_append, Bytes.concat_cons]
    rfl
  rw [hjoin, Bytes.concat_runsAt_zero hsize]

theorem readsFields : ReadsFields 80 fieldWidths read readFields toBlock :=
  .of_runs (by decide) rfl readFields_eq_map_runs
    (fun _ _ hfit => ofRuns_runsAt hfit) (fun _ hsize => toBlock_ofBlock hsize)

theorem read_toBlock {record : HeaderRecord} (hidentifier : record.identifier.size = 12)
    (front rest : Bytes) :
    let stored := front ++ record.toBlock ++ rest
    read.run ⟨stored, front.size⟩ = .ok record ⟨stored, front.size + 80⟩ := by
  intro stored
  have hsize := size_toBlock hidentifier
  have hblock := Reading.bytes_append_middle front record.toBlock rest
  have hback := ofBlock_toBlock_append hidentifier .empty
  rw [hsize] at hblock
  rw [ByteArray.append_empty] at hback
  rw [read, size, EStateM.run_map, hblock, EStateM.Result.map_ok, hback]

end HeaderRecord

namespace LevelEntry

def fieldWidths : List Nat :=
  List.replicate 3 8

def ofRuns (runs : List Bytes) : LevelEntry :=
  let longWord (field : Nat) := Bytes.word64At 0 (runs.getD field .empty)
  ⟨longWord 0, longWord 1, longWord 2⟩

private theorem readFields_eq_map_runs : readFields = ofRuns <$> Reading.runs fieldWidths := by
  simp only [readFields, fieldWidths, List.replicate, Reading.runs, Reading.word64, bind_map_left,
    map_bind, bind_assoc, pure_bind, map_pure]
  rfl

private theorem ofRuns_runsAt {bytes : Bytes} {position : Nat} (hfit : position + 24 ≤ bytes.size) :
    ofRuns (Bytes.runsAt fieldWidths position bytes) =
      ofBlock (bytes.extract position (position + 24)) := by
  simp [ofRuns, ofBlock, fieldWidths, Bytes.runsAt, Nat.add_assoc, List.replicate,
    ← Bytes.word64At_zero_extract hfit]

theorem toBlock_ofBlock {block : Bytes} (hsize : block.size = 24) :
    (ofBlock block).toBlock = block := by
  have hruns : (ofBlock block).words.map Bytes.ofWord64 = Bytes.runsAt fieldWidths 0 block := by
    simp [ofBlock, words, fieldWidths, Bytes.runsAt, List.replicate, Bytes.ofWord64_word64At, hsize]
  rw [toBlock, hruns, Bytes.concat_runsAt_zero hsize]

theorem readsFields : ReadsFields 24 fieldWidths read readFields toBlock :=
  .of_runs (by decide) rfl readFields_eq_map_runs
    (fun _ _ hfit => ofRuns_runsAt hfit) (fun _ hsize => toBlock_ofBlock hsize)

theorem ofBlock_toBlock (entry : LevelEntry) : ofBlock entry.toBlock = entry := by
  have hword : ∀ field (hfield : field < entry.words.length),
      Bytes.word64At (8 * field) entry.toBlock = entry.words[field] :=
    fun _ hfield => Bytes.word64At_concat hfield
  have hthree : entry.words.length = 3 := rfl
  have hoffset := hword 0 (by omega)
  have hlength := hword 1 (by omega)
  have huncompressed := hword 2 (by omega)
  rw [ofBlock, hoffset, hlength, huncompressed]
  rfl

theorem read_toBlock (entry : LevelEntry) (front rest : Bytes) :
    let stored := front ++ entry.toBlock ++ rest
    read.run ⟨stored, front.size⟩ = .ok entry ⟨stored, front.size + 24⟩ := by
  intro stored
  have hblock := Reading.bytes_append_middle front entry.toBlock rest
  rw [size_toBlock] at hblock
  rw [read, size, EStateM.run_map, hblock, EStateM.Result.map_ok, ofBlock_toBlock]

end LevelEntry

namespace Header

variable {record : HeaderRecord}

theorem ofRecord_eq_error_iff {word : UInt32} :
    ofRecord record = .error word ↔ 3 < record.scheme ∧ word = record.scheme := by
  by_cases hlarge : 3 < record.scheme
  · rw [ofRecord_of_large hlarge, Except.error.injEq]
    simp [hlarge, eq_comm]
  · obtain ⟨header, hheader, _⟩ := exists_ofRecord hlarge
    rw [hheader]
    simp [hlarge]

theorem ofRecord_eq_ok_iff {header : Header} :
    ofRecord record = .ok header ↔ header.toRecord record.identifier = record := by
  constructor
  · intro hheader
    by_cases hlarge : 3 < record.scheme
    · rw [ofRecord_of_large hlarge] at hheader
      cases hheader
    · obtain ⟨other, hother, hrecord⟩ := exists_ofRecord hlarge
      rw [hheader, Except.ok.injEq] at hother
      rw [hother, hrecord]
  · intro hrecord
    rw [← hrecord]
    exact ofRecord_toRecord _ _

end Header

/-- The fixed header and the entries of the level index are read alike as blocks and field by field,
from every position; the bytes that were read store the record, and a stored record is read back. A
record is turned into a header with the same fields, or refused for the word of its scheme when that
is above three. A read that is refused leaves the cursor where it is. -/
theorem read_eq_readFields :
    (ReadsFields 80 (12 :: List.replicate 13 4 ++ List.replicate 2 8) HeaderRecord.read
        HeaderRecord.readFields HeaderRecord.toBlock ∧
      (∀ (record : HeaderRecord) word,
        Header.ofRecord record = .error word ↔ 3 < record.scheme ∧ word = record.scheme) ∧
      (∀ (record : HeaderRecord) header,
        Header.ofRecord record = .ok header ↔ header.toRecord record.identifier = record) ∧
      (∀ (record : HeaderRecord) (front rest : Bytes), record.identifier.size = 12 →
        let stored := front ++ record.toBlock ++ rest
        HeaderRecord.read.run ⟨stored, front.size⟩ = .ok record ⟨stored, front.size + 80⟩) ∧
      ∀ cursor : Cursor, cursor.remaining < 80 → Walk.step cursor .header =
        ⟨.error ⟨cursor.position, 80, cursor.length⟩, cursor⟩) ∧
    ReadsFields 24 (List.replicate 3 8) LevelEntry.read LevelEntry.readFields LevelEntry.toBlock ∧
      (∀ (entry : LevelEntry) (front rest : Bytes),
        let stored := front ++ entry.toBlock ++ rest
        LevelEntry.read.run ⟨stored, front.size⟩ = .ok entry ⟨stored, front.size + 24⟩) ∧
      ∀ cursor : Cursor, cursor.remaining < 24 → Walk.step cursor .levelEntry =
        ⟨.error ⟨cursor.position, 24, cursor.length⟩, cursor⟩ := by
  refine ⟨⟨HeaderRecord.readsFields, fun _ _ => Header.ofRecord_eq_error_iff,
    fun _ _ => Header.ofRecord_eq_ok_iff, ?_, ?_⟩, LevelEntry.readsFields, LevelEntry.read_toBlock, ?_⟩
  · intro record front rest hidentifier
    exact HeaderRecord.read_toBlock hidentifier front rest
  · intro cursor hshort
    rw [Walk.step, Walk.serve, EStateM.run_map, (HeaderRecord.readsFields.of_short cursor hshort).1]
    rfl
  · intro cursor hshort
    rw [Walk.step, Walk.serve, EStateM.run_map, (LevelEntry.readsFields.of_short cursor hshort).1]
    rfl

/-- A header no two of whose fields are equal. -/
def Header.counting : Header :=
  ⟨9, 1, 16, 17, 18, 19, 20, 21, .zStandard, ⟨22, 23⟩, ⟨24, 25⟩, ⟨0x1A00000000, 0x1B00000000⟩⟩

theorem read_eq_readFields_counting :
    let record := Header.counting.toRecord ktx2Identifier
    let stored : Bytes := ⟨#[255]⟩ ++ record.toBlock ++ ⟨#[7, 7]⟩
    HeaderRecord.read.run ⟨stored, 1⟩ = .ok record ⟨stored, 81⟩ ∧
      HeaderRecord.readFields.run ⟨stored, 1⟩ = .ok record ⟨stored, 81⟩ ∧
      Header.ofRecord record = .ok Header.counting ∧
      Header.ofRecord { record with scheme := 4 } = .error 4 ∧
      HeaderRecord.read.run ⟨stored, 20⟩ = .error ⟨20, 80, 83⟩ ⟨stored, 20⟩ ∧
      HeaderRecord.readFields.run ⟨stored, 20⟩ = .error ⟨80, 4, 83⟩ ⟨stored, 80⟩ ∧
      Walk.step ⟨stored, 60⟩ .levelEntry = ⟨.error ⟨60, 24, 83⟩, ⟨stored, 60⟩⟩ := by
  intro record stored
  have hsize : stored.size = 83 := by decide +kernel
  have hidentifier : record.identifier.size = 12 := rfl
  have hremaining : ∀ position, (⟨stored, position⟩ : Cursor).remaining = 83 - position := by
    intro position
    rw [Cursor.remaining, Cursor.length, hsize]
  obtain ⟨⟨⟨_, henough, hshort⟩, herror, hok, hstored, _⟩, _, _, hentry⟩ := read_eq_readFields
  have hread := hstored record ⟨#[255]⟩ ⟨#[7, 7]⟩ hidentifier
  obtain ⟨value, hvalue, hfields, _⟩ := henough ⟨stored, 1⟩ (by rw [hremaining]; decide)
  obtain ⟨rfl, _⟩ := EStateM.Result.ok.inj (hvalue.symm.trans hread)
  obtain ⟨hblock, field, hfield, hwhole, hcut, hrefused⟩ :=
    hshort ⟨stored, 20⟩ (by rw [hremaining]; decide)
  rw [hremaining] at hwhole hcut
  -- Of the fields in front of the end, the first thirteen are whole.
  have hthirteen : field = 13 := by
    have hbound : field < 16 := hfield
    interval_cases field
    all_goals first | rfl | (revert hwhole hcut; decide)
  subst hthirteen
  have hlength : ∀ position, (⟨stored, position⟩ : Cursor).length = 83 := fun _ => hsize
  have hstay := hentry ⟨stored, 60⟩ (by rw [hremaining]; decide)
  rw [hlength] at hblock hrefused hstay
  exact ⟨hread, hfields, (hok _ _).mpr rfl, (herror _ _).mpr (by decide), hblock, hrefused, hstay⟩

end GpuTexture
