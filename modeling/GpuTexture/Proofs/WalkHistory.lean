import Mathlib
import GpuTexture.Proofs.FieldReads

/-!
# What a walk has read

Wherever a walk stands, the values of its reads, stored again one after the other, are the bytes in
front of its cursor. A request is served exactly when its bytes are left, and a refused request or a
peek leaves no trace. A position never passes the end of the buffer, so it can be kept in a word that
is moved without a check: the check that a request has passed is enough.
-/

namespace GpuTexture

namespace Walk

namespace Request

def count : Request → UInt64
  | .peek count | .read count => count
  | .word32 => 4
  | .word64 => 8
  | .header => 80
  | .levelEntry => 24

def consumes : Request → Bool
  | .peek _ => false
  | .read _ | .word32 | .word64 | .header | .levelEntry => true

def valueOf : Request → Bytes → Value
  | .peek _, block | .read _, block => .bytes block
  | .word32, block => .word32 (Bytes.word32At 0 block)
  | .word64, block => .word64 (Bytes.word64At 0 block)
  | .header, block => .header (HeaderRecord.ofBlock block)
  | .levelEntry, block => .levelEntry (LevelEntry.ofBlock block)

def behind (request : Request) (cursor : Cursor) : Cursor :=
  if request.consumes then cursor.advance request.count.toNat else cursor

end Request

def Value.stored : Value → Bytes
  | .bytes block => block
  | .word32 word => Bytes.ofWord32 word
  | .word64 word => Bytes.ofWord64 word
  | .header record => record.toBlock
  | .levelEntry entry => entry.toBlock

/-- The read that a step was, if it consumed bytes: what was asked for, and what it yielded. -/
def readBy (request : Request) (stop : Stop) : List (Request × Value) :=
  match stop.answer with
  | .ok value => if request.consumes then [(request, value)] else []
  | .error _ => []

@[simp] theorem readBy_ok (request : Request) (value : Value) (next : Cursor) :
    readBy request ⟨.ok value, next⟩ = if request.consumes then [(request, value)] else [] := rfl

def reads (requests : List Request) (stops : List Stop) : List (Request × Value) :=
  (List.zipWith readBy requests stops).flatten

def last (cursor : Cursor) (stops : List Stop) : Cursor :=
  (stops.map Stop.cursor).getLastD cursor

variable {cursor : Cursor} {request : Request}

/-! ## One step -/

/-- Every request looks at its bytes and makes something of them. -/
theorem serve_eq (request : Request) : serve request = request.valueOf <$>
    if request.consumes then Reading.bytes request.count.toNat
    else Reading.peek request.count.toNat := by
  cases request with
  | peek count => rfl
  | read count => rfl
  | word32 =>
    rw [serve, Reading.word32, Functor.map_map]
    rfl
  | word64 =>
    rw [serve, Reading.word64, Functor.map_map]
    rfl
  | header =>
    rw [serve, HeaderRecord.read, Functor.map_map]
    rfl
  | levelEntry =>
    rw [serve, LevelEntry.read, Functor.map_map]
    rfl

theorem step_of_le (henough : request.count.toNat ≤ cursor.remaining) : step cursor request =
    ⟨.ok (request.valueOf
        (cursor.buffer.extract cursor.position (cursor.position + request.count.toNat))),
      request.behind cursor⟩ := by
  rw [step, serve_eq, EStateM.run_map, Request.behind]
  split_ifs
  · rw [Reading.bytes_of_le henough, EStateM.Result.map_ok]
  · rw [Reading.peek_of_le henough, EStateM.Result.map_ok]

theorem step_of_lt (hshort : cursor.remaining < request.count.toNat) : step cursor request =
    ⟨.error ⟨cursor.position, request.count.toNat, cursor.length⟩, cursor⟩ := by
  rw [step, serve_eq, EStateM.run_map]
  split_ifs
  · rw [Reading.bytes_of_lt hshort, EStateM.Result.map_error]
  · rw [Reading.peek_of_lt hshort, EStateM.Result.map_error]

private theorem step_peek (cursor : Cursor) (count : UInt64) :
    (step cursor (.peek count)).answer = (step cursor (.read count)).answer ∧
      (step cursor (.peek count)).cursor = cursor := by
  rcases Nat.lt_or_ge cursor.remaining count.toNat with hshort | henough
  · have hpeek : step cursor (.peek count) = _ := step_of_lt hshort
    have hread : step cursor (.read count) = _ := step_of_lt hshort
    rw [hpeek, hread]
    exact ⟨rfl, rfl⟩
  · have hpeek : step cursor (.peek count) = _ := step_of_le henough
    have hread : step cursor (.read count) = _ := step_of_le henough
    rw [hpeek, hread]
    exact ⟨rfl, rfl⟩

private theorem end_le (hinside : cursor.position ≤ cursor.buffer.size)
    (henough : request.count.toNat ≤ cursor.remaining) :
    cursor.position + request.count.toNat ≤ cursor.buffer.size := by
  have hremaining : cursor.remaining = cursor.buffer.size - cursor.position := rfl
  omega

private theorem stored_valueOf {block : Bytes} (hsize : block.size = request.count.toNat) :
    (request.valueOf block).stored = block := by
  cases request with
  | peek count => rfl
  | read count => rfl
  | word32 =>
    have hcount : block.size = 4 := hsize
    have hword : Bytes.ofWord32 (Bytes.word32At 0 block) = block.extract 0 (0 + 4) :=
      Bytes.ofWord32_word32At (by omega)
    rwa [Nat.zero_add, ← hcount, ByteArray.extract_zero_size] at hword
  | word64 =>
    have hcount : block.size = 8 := hsize
    have hword : Bytes.ofWord64 (Bytes.word64At 0 block) = block.extract 0 (0 + 8) :=
      Bytes.ofWord64_word64At (by omega)
    rwa [Nat.zero_add, ← hcount, ByteArray.extract_zero_size] at hword
  | header => exact HeaderRecord.toBlock_ofBlock hsize
  | levelEntry => exact LevelEntry.toBlock_ofBlock hsize

/-- A cursor has become another one in its buffer, and the values of the reads in between are stored
in the bytes in between. -/
structure Consumes (cursor after : Cursor) (reads : List (Request × Value)) : Prop where
  buffer_eq : after.buffer = cursor.buffer
  position_le : after.position ≤ cursor.buffer.size
  position_eq : after.position = cursor.position + (reads.map fun read => read.1.count.toNat).sum
  stored_eq : Bytes.concat (reads.map fun read => read.2.stored) =
    cursor.buffer.extract cursor.position after.position

namespace Consumes

theorem refl (hinside : cursor.position ≤ cursor.buffer.size) : Consumes cursor cursor [] where
  buffer_eq := rfl
  position_le := hinside
  position_eq := rfl
  stored_eq := by simp

theorem trans {middle after : Cursor} {first further : List (Request × Value)}
    (hfirst : Consumes cursor middle first) (hfurther : Consumes middle after further) :
    Consumes cursor after (first ++ further) where
  buffer_eq := hfurther.buffer_eq.trans hfirst.buffer_eq
  position_le := hfirst.buffer_eq ▸ hfurther.position_le
  position_eq := by
    rw [hfurther.position_eq, hfirst.position_eq, List.map_append, List.sum_append, Nat.add_assoc]
  stored_eq := by
    have hmiddle : cursor.position ≤ middle.position := by
      rw [hfirst.position_eq]
      exact Nat.le_add_right _ _
    have hafter : middle.position ≤ after.position := by
      rw [hfurther.position_eq]
      exact Nat.le_add_right _ _
    rw [List.map_append, Bytes.concat_append, hfirst.stored_eq, hfurther.stored_eq,
      hfirst.buffer_eq]
    exact (ByteArray.extract_eq_extract_append_extract _ hmiddle hafter).symm

end Consumes

theorem step_consumes (hinside : cursor.position ≤ cursor.buffer.size) (request : Request) :
    Consumes cursor (step cursor request).cursor (readBy request (step cursor request)) := by
  rcases Nat.lt_or_ge cursor.remaining request.count.toNat with hshort | henough
  · rw [step_of_lt hshort]
    exact .refl hinside
  rw [step_of_le henough]
  by_cases hconsumes : request.consumes
  · have hend := end_le hinside henough
    have hbehind : request.behind cursor = cursor.advance request.count.toNat := if_pos hconsumes
    have hsize : (cursor.buffer.extract cursor.position
        (cursor.position + request.count.toNat)).size = request.count.toNat := by
      rw [ByteArray.size_extract]
      omega
    have hstored := stored_valueOf hsize
    rw [hbehind, readBy_ok, if_pos hconsumes]
    constructor
    · rfl
    · exact hend
    · rfl
    · simp only [List.map_cons, List.map_nil, Bytes.concat_cons, Bytes.concat_nil,
        ByteArray.append_empty, hstored]
      rfl
  · have hbehind : request.behind cursor = cursor := if_neg hconsumes
    rw [hbehind, readBy_ok, if_neg hconsumes]
    exact .refl hinside

/-! ## Whole walks -/

private theorem last_run_cons (cursor : Cursor) (request : Request) (rest : List Request) :
    last cursor (run cursor (request :: rest)) =
      last (step cursor request).cursor (run (step cursor request).cursor rest) := by
  rw [run, last, List.map_cons, List.getLastD_cons]
  rfl

theorem length_run (cursor : Cursor) (requests : List Request) :
    (run cursor requests).length = requests.length := by
  induction requests generalizing cursor with
  | nil => rfl
  | cons request rest ih => rw [run, List.length_cons, ih, List.length_cons]

theorem run_append (cursor : Cursor) (requests more : List Request) :
    run cursor (requests ++ more) =
      run cursor requests ++ run (last cursor (run cursor requests)) more := by
  induction requests generalizing cursor with
  | nil => rfl
  | cons request rest ih =>
    rw [last_run_cons, List.cons_append, run, ih, run, List.cons_append]

theorem run_consumes (hinside : cursor.position ≤ cursor.buffer.size) (requests : List Request) :
    Consumes cursor (last cursor (run cursor requests)) (reads requests (run cursor requests)) := by
  induction requests generalizing cursor with
  | nil => exact .refl hinside
  | cons request rest ih =>
    -- A step stays inside the buffer, so the rest of the walk starts inside it.
    have hstep := step_consumes hinside request
    have hnext : (step cursor request).cursor.position ≤ (step cursor request).cursor.buffer.size :=
      hstep.buffer_eq ▸ hstep.position_le
    rw [last_run_cons]
    exact hstep.trans (ih hnext)

/-! ## Positions as words -/

/-- Where a request ends, if a word can hold this and the bytes reach as far. -/
def endInside? (bytes : Bytes) (position count : UInt64) : Option UInt64 :=
  if position.toNat + count.toNat < UInt64.size then
    if (position + count).toNat ≤ bytes.size then some (position + count) else none
  else none

/-- A step of a walk whose position is a word. That the request ends inside the bytes is checked; the
position is then moved without looking. -/
def wordStep (bytes : Bytes) (position : UInt64) (request : Request) :
    Except ReadError Value × UInt64 :=
  match endInside? bytes position request.count with
  | some behind => (.ok (request.valueOf (bytes.extract position.toNat behind.toNat)),
      if request.consumes then position + request.count else position)
  | none => (.error ⟨position.toNat, request.count.toNat, bytes.size⟩, position)

def wordRun (bytes : Bytes) : UInt64 → List Request → List (Except ReadError Value × UInt64)
  | _, [] => []
  | position, request :: rest =>
    let stop := wordStep bytes position request
    stop :: wordRun bytes stop.2 rest

private theorem toNat_ofNat_position (hword : cursor.buffer.size < 2 ^ 64)
    (hinside : cursor.position ≤ cursor.buffer.size) :
    (UInt64.ofNat cursor.position).toNat = cursor.position :=
  UInt64.toNat_ofNat_of_lt' (Nat.lt_of_le_of_lt hinside hword)

/-- The end of a request that can be served is a word. -/
private theorem toNat_add_count (hword : cursor.buffer.size < 2 ^ 64)
    (hinside : cursor.position ≤ cursor.buffer.size)
    (henough : request.count.toNat ≤ cursor.remaining) :
    (UInt64.ofNat cursor.position + request.count).toNat =
      cursor.position + request.count.toNat := by
  have hend := Nat.lt_of_le_of_lt (end_le hinside henough) hword
  rw [UInt64.toNat_add, toNat_ofNat_position hword hinside, Nat.mod_eq_of_lt hend]

private theorem endInside?_of_le (hword : cursor.buffer.size < 2 ^ 64)
    (hinside : cursor.position ≤ cursor.buffer.size)
    (henough : request.count.toNat ≤ cursor.remaining) :
    endInside? cursor.buffer (.ofNat cursor.position) request.count =
      some (.ofNat cursor.position + request.count) := by
  have hle := end_le hinside henough
  have hsmall : cursor.position + request.count.toNat < UInt64.size := Nat.lt_of_le_of_lt hle hword
  rw [endInside?, toNat_ofNat_position hword hinside, if_pos hsmall,
    toNat_add_count hword hinside henough, if_pos hle]

private theorem endInside?_of_lt (hword : cursor.buffer.size < 2 ^ 64)
    (hinside : cursor.position ≤ cursor.buffer.size)
    (hshort : cursor.remaining < request.count.toNat) :
    endInside? cursor.buffer (.ofNat cursor.position) request.count = none := by
  have hposition := toNat_ofNat_position hword hinside
  have hremaining : cursor.remaining = cursor.buffer.size - cursor.position := rfl
  rw [endInside?, hposition]
  split
  · next hsmall =>
    -- A sum that is a word is the end of the request, and this is behind the buffer.
    have hend : (UInt64.ofNat cursor.position + request.count).toNat =
        cursor.position + request.count.toNat := by
      rw [UInt64.toNat_add, hposition, Nat.mod_eq_of_lt hsmall]
    exact if_neg (by omega)
  · rfl

theorem wordStep_eq (hword : cursor.buffer.size < 2 ^ 64)
    (hinside : cursor.position ≤ cursor.buffer.size) (request : Request) :
    wordStep cursor.buffer (.ofNat cursor.position) request =
      ((step cursor request).answer, .ofNat (step cursor request).cursor.position) := by
  have hposition := toNat_ofNat_position hword hinside
  rcases Nat.lt_or_ge cursor.remaining request.count.toNat with hshort | henough
  · rw [step_of_lt hshort, wordStep, endInside?_of_lt hword hinside hshort, hposition]
    rfl
  · rw [step_of_le henough, wordStep, endInside?_of_le hword hinside henough]
    simp only [hposition, toNat_add_count hword hinside henough, Request.behind]
    split
    · rw [Cursor.advance, UInt64.ofNat_add, UInt64.ofNat_toNat]
    · rfl

theorem wordRun_eq (hword : cursor.buffer.size < 2 ^ 64)
    (hinside : cursor.position ≤ cursor.buffer.size) (requests : List Request) :
    wordRun cursor.buffer (.ofNat cursor.position) requests =
      (run cursor requests).map fun stop => (stop.answer, .ofNat stop.cursor.position) := by
  induction requests generalizing cursor with
  | nil => rfl
  | cons request rest ih =>
    have hstep := step_consumes hinside request
    have hrest := @ih (step cursor request).cursor (hstep.buffer_eq ▸ hword)
      (hstep.buffer_eq ▸ hstep.position_le)
    rw [hstep.buffer_eq] at hrest
    rw [wordRun, wordStep_eq hword hinside, run, List.map_cons, hrest]

/-- What a walk over bytes has done, after any requests. It has a stop for each of them, and goes on
from the cursor that it has reached. The cursor is inside the bytes, at the sum of what the reads that
were served asked for, and their values are stored in all bytes in front of it. From there a request
is served exactly when as many bytes are left as it asks for, with the value that they make; otherwise
it is refused where it starts, and the cursor stays. A peek yields what the read would, and records of
any kind are read like runs of bytes. Where the length of the bytes is a word, no end of a served
request is more than a word, and a walk whose position is moved as a word makes the same stops. -/
theorem history_of_walk (bytes : Bytes) (requests : List Request) :
    let stops := run (.ofBytes bytes) requests
    let cursor := last (.ofBytes bytes) stops
    let served := reads requests stops
    (stops.length = requests.length ∧
        ∀ more, run (.ofBytes bytes) (requests ++ more) = stops ++ run cursor more) ∧
      (cursor.buffer = bytes ∧ cursor.position ≤ bytes.size ∧
        cursor.remaining = bytes.size - cursor.position ∧
        (cursor.isEmpty = true ↔ cursor.remaining = 0) ∧
        (cursor.isEmpty = true ↔ bytes.size ≤ cursor.position)) ∧
      (cursor.position = (served.map fun read => read.1.count.toNat).sum ∧
        Bytes.concat (served.map fun read => read.2.stored) = bytes.extract 0 cursor.position) ∧
      (∀ request : Request,
        (request.count.toNat ≤ cursor.remaining → step cursor request =
          ⟨.ok (request.valueOf
              (bytes.extract cursor.position (cursor.position + request.count.toNat))),
            request.behind cursor⟩) ∧
        (cursor.remaining < request.count.toNat → step cursor request =
          ⟨.error ⟨cursor.position, request.count.toNat, bytes.size⟩, cursor⟩)) ∧
      (∀ count, (step cursor (.peek count)).answer = (step cursor (.read count)).answer ∧
        (step cursor (.peek count)).cursor = cursor) ∧
      (∀ (record : Type) (size : Nat) (ofBlock : Bytes → record),
        (ofBlock <$> Reading.bytes size).run cursor =
          if size ≤ cursor.remaining then
            .ok (ofBlock (bytes.extract cursor.position (cursor.position + size)))
              (cursor.advance size)
          else .error ⟨cursor.position, size, bytes.size⟩ cursor) ∧
      (bytes.size < 2 ^ 64 →
        (∀ request : Request, request.count.toNat ≤ cursor.remaining →
          (UInt64.ofNat cursor.position + request.count).toNat =
            cursor.position + request.count.toNat) ∧
        wordRun bytes 0 requests =
          stops.map fun stop => (stop.answer, .ofNat stop.cursor.position)) := by
  intro stops cursor served
  have hstart : (Cursor.ofBytes bytes).position ≤ (Cursor.ofBytes bytes).buffer.size :=
    Nat.zero_le _
  have hconsumes : Consumes (.ofBytes bytes) cursor served := run_consumes hstart requests
  have hbuffer : cursor.buffer = bytes := hconsumes.buffer_eq
  have hlength : cursor.length = bytes.size := congrArg ByteArray.size hbuffer
  have hinside : cursor.position ≤ bytes.size := hconsumes.position_le
  have hposition := hconsumes.position_eq
  rw [show (Cursor.ofBytes bytes).position = 0 from rfl, Nat.zero_add] at hposition
  have hremaining : cursor.remaining = bytes.size - cursor.position := by
    rw [Cursor.remaining, hlength]
  have hempty : cursor.isEmpty = true ↔ cursor.remaining = 0 := beq_iff_eq
  refine ⟨⟨length_run _ _, run_append _ _⟩, ⟨hbuffer, hinside, hremaining, hempty, ?_⟩,
    ⟨hposition, hconsumes.stored_eq⟩, ?_, ?_, ?_, ?_⟩
  · rw [hempty, hremaining, Nat.sub_eq_zero_iff_le]
  · intro request
    constructor
    · intro henough
      rw [step_of_le henough, hbuffer]
    · intro hshort
      rw [step_of_lt hshort, hlength]
  · exact step_peek cursor
  · intro record size ofBlock
    rw [EStateM.run_map]
    split
    · next henough => rw [Reading.bytes_of_le henough, EStateM.Result.map_ok, hbuffer]
    · next hshort =>
      rw [Reading.bytes_of_lt (Nat.lt_of_not_le hshort), EStateM.Result.map_error, hlength]
  · intro hword
    refine ⟨fun request henough => ?_, wordRun_eq hword hstart requests⟩
    exact toNat_add_count (hbuffer ▸ hword) (hbuffer ▸ hinside) henough

/-- Five bytes: a word of four and a single byte are read, a read of all that a word can count and one
of another word are refused, and the peek leaves no trace. -/
theorem history_of_walk_five :
    let bytes : Bytes := ⟨#[1, 2, 3, 4, 5]⟩
    let requests : List Request :=
      [.peek 2, .word32, .read 0xFFFFFFFFFFFFFFFF, .read 1, .word64]
    let stops := run (.ofBytes bytes) requests
    let cursor := last (.ofBytes bytes) stops
    bytes.size < 2 ^ 64 ∧ cursor.position = 5 ∧ cursor.remaining = 0 ∧
      Bytes.concat ((reads requests stops).map fun read => read.2.stored) = bytes.extract 0 5 ∧
      step cursor (.read 0xFFFFFFFFFFFFFFFF) =
        ⟨.error ⟨5, 0xFFFFFFFFFFFFFFFF, 5⟩, cursor⟩ ∧
      (UInt64.ofNat 5 + 0).toNat = 5 ∧
      (wordRun bytes 0 requests).map Prod.snd = [0, 4, 4, 5, 5] := by
  intro bytes requests stops cursor
  have hword : bytes.size < 2 ^ 64 := by decide
  obtain ⟨_, ⟨_, _, hremaining, _⟩, ⟨_, hstored⟩, hserved, _, _, hwords⟩ :=
    history_of_walk bytes requests
  have hfive : cursor.position = 5 := by decide +kernel
  have hnone : cursor.remaining = 0 := by
    rw [hremaining, hfive]
    rfl
  rw [hfive] at hstored
  obtain ⟨hends, hrun⟩ := hwords hword
  have hend := hends (.read 0) (Nat.zero_le _)
  have hrefused := (hserved (.read 0xFFFFFFFFFFFFFFFF)).2 (by rw [hnone]; decide)
  rw [hfive] at hend hrefused
  have hpositions : stops.map (fun stop => UInt64.ofNat stop.cursor.position) = [0, 4, 4, 5, 5] := by
    decide +kernel
  refine ⟨hword, hfive, hnone, hstored, hrefused, hend, ?_⟩
  rw [hrun, List.map_map]
  exact hpositions

end Walk

end GpuTexture
