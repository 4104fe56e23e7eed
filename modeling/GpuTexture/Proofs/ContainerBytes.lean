import Mathlib
import GpuTexture.Ktx2.Container
import GpuTexture.Ktx2.Writer
import GpuTexture.Proofs.LittleEndian

/-!
# Header and level index as bytes

Where the fields of a container stand in its bytes. The header is read from the first eighty bytes,
and the index entry after entry behind it; what is read is what stands there, and a read that
reaches beyond the end is refused at the entry that is cut off. Bytes that were written are read
back as they were.
-/

namespace GpuTexture

namespace Bytes

theorem word32At_extract {bytes : Bytes} {first last offset : Nat} (hlast : last ≤ bytes.size)
    (hfit : first + offset + 4 ≤ last) :
    word32At offset (bytes.extract first last) = word32At (first + offset) bytes := by
  rw [word32At, natAt_extract hlast hfit, word32At]

theorem word64At_extract {bytes : Bytes} {first last offset : Nat} (hlast : last ≤ bytes.size)
    (hfit : first + offset + 8 ≤ last) :
    word64At offset (bytes.extract first last) = word64At (first + offset) bytes := by
  rw [word64At, natAt_extract hlast hfit, word64At]

end Bytes

namespace HeaderRecord

/-- A record takes nothing from behind the eighty bytes that hold it. -/
theorem ofBlock_extract {bytes : Bytes} (hlong : 80 ≤ bytes.size) :
    ofBlock (bytes.extract 0 80) = ofBlock bytes := by
  have hword : ∀ offset, offset + 4 ≤ 80 →
      Bytes.word32At offset (bytes.extract 0 80) = Bytes.word32At offset bytes := by
    intro offset hfit
    rw [Bytes.word32At_extract hlong (by omega), Nat.zero_add]
  have hlongWord : ∀ offset, offset + 8 ≤ 80 →
      Bytes.word64At offset (bytes.extract 0 80) = Bytes.word64At offset bytes := by
    intro offset hfit
    rw [Bytes.word64At_extract hlong (by omega), Nat.zero_add]
  have hidentifier : (bytes.extract 0 80).extract 0 12 = bytes.extract 0 12 := by
    rw [ByteArray.extract_extract]
    rfl
  simp [ofBlock, hword, hlongWord, hidentifier]

private theorem size_words (record : HeaderRecord) :
    (Bytes.concat (record.words.map Bytes.ofWord32)).size = 52 := by
  have heven : ∀ run ∈ record.words.map Bytes.ofWord32, run.size = 4 := by simp
  rw [Bytes.size_concat_of_even heven, List.length_map]
  rfl

private theorem size_longWords (record : HeaderRecord) :
    (Bytes.concat (record.longWords.map Bytes.ofWord64)).size = 16 := by
  have heven : ∀ run ∈ record.longWords.map Bytes.ofWord64, run.size = 8 := by simp
  rw [Bytes.size_concat_of_even heven, List.length_map]
  rfl

theorem size_toBlock {record : HeaderRecord} (hidentifier : record.identifier.size = 12) :
    record.toBlock.size = 80 := by
  rw [toBlock, ByteArray.size_append, ByteArray.size_append, size_words, size_longWords, hidentifier]

private theorem word32At_toBlock {record : HeaderRecord} (hidentifier : record.identifier.size = 12)
    (rest : Bytes) (index : Nat) (hindex : index < record.words.length) :
    Bytes.word32At (12 + 4 * index) (record.toBlock ++ rest) = record.words[index] := by
  have hlast : 4 * index + 4 ≤ (Bytes.concat (record.words.map Bytes.ofWord32)).size := by
    rw [size_words]
    have hlength : record.words.length = 13 := rfl
    omega
  rw [← Bytes.word32At_concat hindex, ← hidentifier, Bytes.word32At, toBlock]
  rw [ByteArray.append_assoc, ByteArray.append_assoc, Bytes.natAt_append_right,
    Bytes.natAt_append_left hlast]
  rfl

private theorem word64At_toBlock {record : HeaderRecord} (hidentifier : record.identifier.size = 12)
    (rest : Bytes) (index : Nat) (hindex : index < record.longWords.length) :
    Bytes.word64At (64 + 8 * index) (record.toBlock ++ rest) = record.longWords[index] := by
  have hfront : (record.identifier ++ Bytes.concat (record.words.map Bytes.ofWord32)).size = 64 := by
    rw [ByteArray.size_append, hidentifier, size_words]
  have hlast : 8 * index + 8 ≤ (Bytes.concat (record.longWords.map Bytes.ofWord64)).size := by
    rw [size_longWords]
    have hlength : record.longWords.length = 2 := rfl
    omega
  rw [← Bytes.word64At_concat hindex, ← hfront, Bytes.word64At, toBlock]
  rw [ByteArray.append_assoc (c := rest), Bytes.natAt_append_right, Bytes.natAt_append_left hlast]
  rfl

private theorem eq_of_words {record other : HeaderRecord}
    (hidentifier : record.identifier = other.identifier) (hwords : record.words = other.words)
    (hlongWords : record.longWords = other.longWords) :
    record = other := by
  obtain ⟨_, _, _, _, _, _, _, _, _, _, ⟨_, _⟩, ⟨_, _⟩, ⟨_, _⟩⟩ := record
  obtain ⟨_, _, _, _, _, _, _, _, _, _, ⟨_, _⟩, ⟨_, _⟩, ⟨_, _⟩⟩ := other
  simp only [words, longWords, List.cons.injEq, and_true] at hidentifier hwords hlongWords
  simp only [mk.injEq, Span.mk.injEq]
  tauto

/-- A stored record is read back whatever stands behind it. -/
theorem ofBlock_toBlock_append {record : HeaderRecord} (hidentifier : record.identifier.size = 12)
    (rest : Bytes) : ofBlock (record.toBlock ++ rest) = record := by
  apply eq_of_words
  · change (record.toBlock ++ rest).extract 0 12 = record.identifier
    rw [toBlock, ByteArray.append_assoc, ByteArray.append_assoc]
    exact ByteArray.extract_append_eq_left hidentifier.symm
  · have hread : (ofBlock (record.toBlock ++ rest)).words =
        (List.range 13).map fun i => Bytes.word32At (12 + 4 * i) (record.toBlock ++ rest) := rfl
    rw [hread]
    apply List.ext_getElem
    · rw [List.length_map, List.length_range]
      rfl
    · intro index _ hindex
      rw [List.getElem_map, List.getElem_range]
      exact word32At_toBlock hidentifier rest index hindex
  · have hread : (ofBlock (record.toBlock ++ rest)).longWords =
        (List.range 2).map fun i => Bytes.word64At (64 + 8 * i) (record.toBlock ++ rest) := rfl
    rw [hread]
    apply List.ext_getElem
    · rw [List.length_map, List.length_range]
      rfl
    · intro index _ hindex
      rw [List.getElem_map, List.getElem_range]
      exact word64At_toBlock hidentifier rest index hindex

end HeaderRecord

namespace LevelEntry

def spelledAt (position : Nat) (bytes : Bytes) : LevelEntry :=
  ⟨Bytes.word64At position bytes, Bytes.word64At (position + 8) bytes,
    Bytes.word64At (position + 16) bytes⟩

def indexAt (count position : Nat) (bytes : Bytes) : List LevelEntry :=
  (List.range count).map fun i => spelledAt (position + 24 * i) bytes

theorem length_indexAt (count position : Nat) (bytes : Bytes) :
    (indexAt count position bytes).length = count := by
  rw [indexAt, List.length_map, List.length_range]

private theorem indexAt_succ (count position : Nat) (bytes : Bytes) :
    indexAt (count + 1) position bytes =
      spelledAt position bytes :: indexAt count (position + 24) bytes := by
  have htail : (List.range count).map (fun i => spelledAt (position + 24 * (i + 1)) bytes) =
      indexAt count (position + 24) bytes := by
    apply List.map_congr_left
    intro i _
    rw [show position + 24 * (i + 1) = position + 24 + 24 * i by omega]
  rw [indexAt, List.range_succ_eq_map, List.map_cons, List.map_map, Nat.mul_zero, Nat.add_zero,
    ← htail]
  rfl

theorem ofBlock_extract {bytes : Bytes} {position : Nat} (hfit : position + 24 ≤ bytes.size) :
    ofBlock (bytes.extract position (position + 24)) = spelledAt position bytes := by
  rw [ofBlock, Bytes.word64At_extract hfit (by omega), Bytes.word64At_extract hfit (by omega),
    Bytes.word64At_extract hfit (by omega)]
  rfl

/-- An index is read when all its entries are there, and otherwise refused at the first that is
not. -/
theorem readMany_eq {bytes : Bytes} {position : Nat} (hstart : position ≤ bytes.size) (count : Nat) :
    (readMany count).run ⟨bytes, position⟩ =
      if position + 24 * count ≤ bytes.size then
        .ok (indexAt count position bytes) ⟨bytes, position + 24 * count⟩
      else
        let last := position + 24 * ((bytes.size - position) / 24)
        .error ⟨last, 24, bytes.size⟩ ⟨bytes, last⟩ := by
  induction count generalizing position with
  | zero =>
    rw [if_pos (by omega)]
    rfl
  | succ count ih =>
    have hremaining : (⟨bytes, position⟩ : Cursor).remaining = bytes.size - position := rfl
    by_cases hroom : position + 24 ≤ bytes.size
    · have hread : read.run ⟨bytes, position⟩ =
          .ok (spelledAt position bytes) ⟨bytes, position + 24⟩ := by
        rw [read, size, EStateM.run_map, Reading.bytes_of_le (by omega), EStateM.Result.map_ok]
        dsimp only [Cursor.advance]
        rw [ofBlock_extract hroom]
      rw [readMany, EStateM.run_bind, hread]
      dsimp only
      rw [EStateM.run_bind, ih hroom]
      by_cases hall : position + 24 + 24 * count ≤ bytes.size
      · have hnext : position + 24 + 24 * count = position + 24 * (count + 1) := by omega
        rw [if_pos hall, if_pos (by omega), indexAt_succ, hnext]
        rfl
      · -- The rest is cut off at the same entry as the whole.
        have hoffset : position + 24 + 24 * ((bytes.size - (position + 24)) / 24) =
            position + 24 * ((bytes.size - position) / 24) := by omega
        rw [if_neg hall, if_neg (by omega), hoffset]
    · have hread : read.run ⟨bytes, position⟩ =
          .error ⟨position, 24, bytes.size⟩ ⟨bytes, position⟩ := by
        rw [read, size, EStateM.run_map, Reading.bytes_of_lt (by omega), EStateM.Result.map_error]
        rfl
      have hwhole : (bytes.size - position) / 24 = 0 := Nat.div_eq_of_lt (by omega)
      rw [readMany, EStateM.run_bind, hread, if_neg (by omega), hwhole, Nat.mul_zero, Nat.add_zero]

theorem size_toBlock (entry : LevelEntry) : entry.toBlock.size = 24 := by
  have heven : ∀ run ∈ entry.words.map Bytes.ofWord64, run.size = 8 := by simp
  rw [toBlock, Bytes.size_concat_of_even heven, List.length_map]
  rfl

theorem size_toBlock_of_mem {entries : List LevelEntry} {run : Bytes}
    (hrun : run ∈ entries.map toBlock) : run.size = 24 := by
  obtain ⟨entry, _, rfl⟩ := List.mem_map.mp hrun
  exact size_toBlock entry

private theorem spelledAt_written (front rest : Bytes) {entries : List LevelEntry} {index : Nat}
    (hindex : index < entries.length) :
    spelledAt (front.size + 24 * index) (front ++ Bytes.concat (entries.map toBlock) ++ rest) =
      entries[index] := by
  have heven : ∀ run ∈ entries.map toBlock, run.size = 24 := fun run => size_toBlock_of_mem
  have hsize : (Bytes.concat (entries.map toBlock)).size = 24 * entries.length := by
    rw [Bytes.size_concat_of_even heven, List.length_map]
  have hthree : entries[index].words.length = 3 := rfl
  have hword : ∀ word (hword : word < entries[index].words.length),
      Bytes.word64At (front.size + 24 * index + 8 * word)
        (front ++ Bytes.concat (entries.map toBlock) ++ rest) = entries[index].words[word] := by
    intro word hword
    have hrun := Bytes.natAt_concat heven (by simpa using hindex) (by omega : 8 * word + 8 ≤ 24)
    rw [List.getElem_map] at hrun
    rw [← Bytes.word64At_concat hword, Bytes.word64At, ByteArray.append_assoc, Nat.add_assoc,
      Bytes.natAt_append_right, Bytes.natAt_append_left (by omega), hrun]
    rfl
  have hoffset := hword 0 (by omega)
  have hlength := hword 1 (by omega)
  have huncompressed := hword 2 (by omega)
  rw [Nat.mul_zero, Nat.add_zero] at hoffset
  rw [spelledAt, hoffset, hlength, huncompressed]
  rfl

theorem indexAt_written (front rest : Bytes) (entries : List LevelEntry) :
    indexAt entries.length front.size (front ++ Bytes.concat (entries.map toBlock) ++ rest) =
      entries := by
  apply List.ext_getElem
  · exact length_indexAt _ _ _
  · intro index _ hindex
    simp only [indexAt, List.getElem_map, List.getElem_range]
    exact spelledAt_written front rest hindex

end LevelEntry

end GpuTexture
