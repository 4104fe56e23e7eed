import Mathlib
import GpuTexture.Outcome
import GpuTexture.Proofs.MipChain
import GpuTexture.Upload.Plan
import GpuTexture.Upload.Recorder

/-!
# The calls of an upload

Levels are gathered in order, so a plan holds one planned level for each mip level, and otherwise
the refusal of the first level that cannot be planned. A submitted plan leaves exactly its own calls
behind those that a recording device already holds. The device has no say in these calls but for the
number of the texture, so an upload that is run again adds the same calls with another number.
-/

namespace GpuTexture

variable {source : TextureSource} {count first : Nat}

theorem gatherLevels_eq_ok_iff {levels : List PlannedLevel} :
    gatherLevels source count first = .ok levels ↔
      levels.length = count ∧ ∀ i (hi : i < levels.length),
        PlannedLevel.ofSource source (.ofNat (first + i)) = .ok levels[i] := by
  induction count generalizing first levels with
  | zero =>
    rw [gatherLevels, Except.ok.injEq, List.length_eq_zero_iff]
    constructor
    · intro heq
      subst heq
      exact ⟨rfl, nofun⟩
    · intro hgathered
      obtain ⟨rfl, _⟩ := hgathered
      rfl
  | succ count ih =>
    simp only [gatherLevels, Outcome.bind_eq_ok_iff, ih, Outcome.pure_eq_ok, Except.ok.injEq]
    constructor
    · intro hgathered
      obtain ⟨level, hlevel, rest, ⟨rfl, hrest⟩, rfl⟩ := hgathered
      refine ⟨rfl, fun i hi => ?_⟩
      -- Level `i` of the rest is level `i + 1` of the whole.
      cases i with
      | zero => exact hlevel
      | succ i =>
        have hnext := hrest i (Nat.lt_of_succ_lt_succ hi)
        rw [Nat.add_right_comm, Nat.add_assoc] at hnext
        exact hnext
    · intro hgathered
      obtain ⟨hlength, hlevels⟩ := hgathered
      obtain ⟨level, rest, rfl⟩ := List.exists_cons_of_length_eq_add_one hlength
      refine ⟨level, hlevels 0 (Nat.zero_lt_succ _), rest, ⟨Nat.succ.inj hlength, ?_⟩, rfl⟩
      intro i hi
      have hnext := hlevels (i + 1) (Nat.succ_lt_succ hi)
      rw [← Nat.add_assoc, Nat.add_right_comm] at hnext
      exact hnext

theorem gatherLevels_eq_error_iff {error : UploadError} :
    gatherLevels source count first = .error error ↔
      ∃ i, i < count ∧ PlannedLevel.ofSource source (.ofNat (first + i)) = .error error ∧
        ∀ j, j < i → ∃ level, PlannedLevel.ofSource source (.ofNat (first + j)) = .ok level := by
  induction count generalizing first with
  | zero => simp [gatherLevels]
  | succ count ih =>
    have hshift : ∀ i, first + 1 + i = first + (i + 1) := by omega
    have hnext := @ih (first + 1)
    simp only [hshift] at hnext
    -- Either the first level decides, or one of the rest, counted from the level after it.
    rw [gatherLevels, Nat.exists_lt_succ_left]
    simp only [Nat.forall_lt_succ_left]
    cases PlannedLevel.ofSource source (.ofNat first) with
    | error other => simp
    | ok level =>
      have hrest : (gatherLevels source count (first + 1) >>= fun rest => pure (level :: rest)) =
          .error error ↔ gatherLevels source count (first + 1) = .error error := by
        cases gatherLevels source count (first + 1) <;> simp
      rw [Outcome.ok_bind, hrest, hnext]
      simp

/-- A level is the first that cannot be planned. -/
def TextureSource.FailsAt (source : TextureSource) (mip : UInt32) (error : UploadError) : Prop :=
  PlannedLevel.ofSource source mip = .error error ∧
    ∀ earlier, earlier < mip → ∃ level, PlannedLevel.ofSource source earlier = .ok level

namespace UploadPlan

variable {options : UploadOptions} {plan : UploadPlan}

theorem build_eq (source : TextureSource) (options : UploadOptions) : build source options =
    (gatherLevels source (clampedMipCount source.levelCount options.mipCount).toNat 0).map
      fun levels => ⟨source.descriptor options, levels⟩ := by
  rw [build]
  cases gatherLevels source (clampedMipCount source.levelCount options.mipCount).toNat 0 <;> rfl

theorem build_eq_ok_iff : build source options = .ok plan ↔
    plan.descriptor = source.descriptor options ∧
      plan.levels.length = (clampedMipCount source.levelCount options.mipCount).toNat ∧
      ∀ i (hi : i < plan.levels.length),
        PlannedLevel.ofSource source (.ofNat i) = .ok plan.levels[i] := by
  rw [build_eq, Outcome.map_eq_ok_iff]
  simp only [gatherLevels_eq_ok_iff, Nat.zero_add]
  constructor
  · intro hplan
    obtain ⟨levels, hlevels, rfl⟩ := hplan
    exact ⟨rfl, hlevels⟩
  · intro hplan
    obtain ⟨hdescriptor, hlevels⟩ := hplan
    exact ⟨plan.levels, hlevels, by rw [← hdescriptor]⟩

theorem build_eq_error_iff {error : UploadError} : build source options = .error error ↔
    ∃ i, i < (clampedMipCount source.levelCount options.mipCount).toNat ∧
      PlannedLevel.ofSource source (.ofNat i) = .error error ∧
      ∀ j, j < i → ∃ level, PlannedLevel.ofSource source (.ofNat j) = .ok level := by
  have hgather : build source options = .error error ↔
      gatherLevels source (clampedMipCount source.levelCount options.mipCount).toNat 0 =
        .error error := by
    rw [build_eq]
    cases gatherLevels source (clampedMipCount source.levelCount options.mipCount).toNat 0 <;> simp
  rw [hgather, gatherLevels_eq_error_iff]
  simp only [Nat.zero_add]

theorem build_eq_error_iff_failsAt {error : UploadError} : build source options = .error error ↔
    ∃ mip, mip < clampedMipCount source.levelCount options.mipCount ∧ source.FailsAt mip error := by
  rw [build_eq_error_iff]
  constructor
  · intro hrefused
    obtain ⟨i, hi, herror, hbefore⟩ := hrefused
    obtain ⟨hmip, hindex⟩ := ofNat_lt_word hi
    refine ⟨.ofNat i, hmip, herror, fun earlier hearlier => ?_⟩
    have hbelow := UInt32.lt_iff_toNat_lt.mp hearlier
    rw [hindex] at hbelow
    obtain ⟨level, hlevel⟩ := hbefore earlier.toNat hbelow
    rw [UInt32.ofNat_toNat] at hlevel
    exact ⟨level, hlevel⟩
  · intro hrefused
    obtain ⟨mip, hmip, herror, hbefore⟩ := hrefused
    refine ⟨mip.toNat, UInt32.lt_iff_toNat_lt.mp hmip, ?_, fun j hj => ?_⟩
    · rw [UInt32.ofNat_toNat]
      exact herror
    · exact hbefore (.ofNat j) (ofNat_lt_word hj).1

def calls (plan : UploadPlan) (texture : TextureId) : List DeviceCall :=
  .createTexture texture plan.descriptor ::
    plan.levels.map fun level => .writeTexture (levelWrite texture level)

end UploadPlan

def DeviceCall.withTexture (texture : TextureId) : DeviceCall → DeviceCall
  | .createTexture _ descriptor => .createTexture texture descriptor
  | .writeTexture write => .writeTexture { write with texture := texture }

private theorem UploadPlan.map_withTexture_calls (plan : UploadPlan) (first second : TextureId) :
    (plan.calls first).map (.withTexture second) = plan.calls second := by
  rw [calls, calls, List.map_cons, List.map_map]
  rfl

namespace Recorder

/-- Writing levels adds their calls in order and hands out no texture. -/
theorem foldl_writeTexture (texture : TextureId) (levels : List PlannedLevel) (recorder : Recorder) :
    let written := levels.foldl (fun state level =>
      GpuDevice.writeTexture (UploadPlan.levelWrite texture level) state) recorder
    written.calls = recorder.calls ++
        levels.map (fun level => .writeTexture (UploadPlan.levelWrite texture level)) ∧
      written.nextId = recorder.nextId := by
  induction levels generalizing recorder with
  | nil => exact ⟨(List.append_nil _).symm, rfl⟩
  | cons level rest ih =>
    have hwritten := ih (GpuDevice.writeTexture (UploadPlan.levelWrite texture level) recorder)
    rw [calls_writeTexture, List.append_assoc] at hwritten
    exact hwritten

theorem submit_eq (plan : UploadPlan) (recorder : Recorder) :
    (plan.submit recorder).1 = recorder.nextId ∧
      (plan.submit recorder).2.calls = recorder.calls ++ plan.calls recorder.nextId ∧
      (plan.submit recorder).2.nextId = ⟨recorder.nextId.index + 1⟩ := by
  obtain ⟨hcalls, hnext⟩ := foldl_writeTexture recorder.nextId plan.levels
    (GpuDevice.createTexture plan.descriptor recorder).2
  refine ⟨rfl, ?_, hnext⟩
  rw [calls_createTexture, List.append_assoc] at hcalls
  exact hcalls

end Recorder

section Upload

variable {device handle : Type} [GpuDevice device handle] {options : UploadOptions}

theorem uploadWithOptions_of_ok {plan : UploadPlan} (hplan : UploadPlan.build source options = .ok plan)
    (state : device) :
    uploadWithOptions source options state = (.ok (plan.submit state).1, (plan.submit state).2) := by
  rw [uploadWithOptions, hplan]

theorem uploadWithOptions_of_error {error : UploadError}
    (hplan : UploadPlan.build source options = .error error) (state : device) :
    uploadWithOptions source options state = (.error error, state) := by
  rw [uploadWithOptions, hplan]

end Upload

/-- The calls of an upload and its handle depend on the recording device in nothing but the number
of the texture. -/
theorem uploadWithOptions_relabel (source : TextureSource) (options : UploadOptions)
    (recorder other : Recorder) :
    ∃ added, (uploadWithOptions source options recorder).2.calls = recorder.calls ++ added ∧
      (uploadWithOptions source options other).2.calls =
        other.calls ++ added.map (.withTexture other.nextId) ∧
      (uploadWithOptions source options other).1 =
        (uploadWithOptions source options recorder).1.map fun _ => other.nextId := by
  cases hplan : UploadPlan.build source options with
  | error error =>
    rw [uploadWithOptions_of_error hplan, uploadWithOptions_of_error hplan]
    exact ⟨[], (List.append_nil _).symm, (List.append_nil _).symm, rfl⟩
  | ok plan =>
    obtain ⟨hid, hcalls, _⟩ := Recorder.submit_eq plan recorder
    obtain ⟨hotherId, hotherCalls, _⟩ := Recorder.submit_eq plan other
    rw [uploadWithOptions_of_ok hplan, uploadWithOptions_of_ok hplan]
    refine ⟨plan.calls recorder.nextId, hcalls, ?_, ?_⟩
    · rw [UploadPlan.map_withTexture_calls]
      exact hotherCalls
    · rw [Outcome.map_ok, hotherId]

/-- An upload to a recording device is all or nothing. A source that cannot be planned leaves the
device as it was. A planned one adds the creation of the next texture and one write for each planned
level, in order. -/
theorem uploadWithOptions_trace (source : TextureSource) (options : UploadOptions)
    (recorder : Recorder) :
    let outcome := uploadWithOptions source options recorder
    (∀ error, UploadPlan.build source options = .error error → outcome = (.error error, recorder)) ∧
      (∀ plan, UploadPlan.build source options = .ok plan →
        outcome.1 = .ok recorder.nextId ∧
        outcome.2.nextId = ⟨recorder.nextId.index + 1⟩ ∧
        outcome.2.calls = recorder.calls ++ .createTexture recorder.nextId plan.descriptor ::
          plan.levels.map fun level => .writeTexture
            { texture := recorder.nextId
              mipLevel := level.mip
              origin := .zero
              aspect := .all
              data := level.data
              layout := level.layout
              size := level.extent }) ∧
      (∀ usage, uploadAllLevels source usage recorder =
        uploadWithOptions source ⟨none, none, usage⟩ recorder) ∧
      ∀ other : Recorder, ∃ added, outcome.2.calls = recorder.calls ++ added ∧
        (uploadWithOptions source options other).2.calls =
          other.calls ++ added.map (.withTexture other.nextId) ∧
        (uploadWithOptions source options other).1 = outcome.1.map fun _ => other.nextId := by
  refine ⟨?_, ?_, fun _ => rfl, uploadWithOptions_relabel source options recorder⟩
  · intro error hplan
    exact uploadWithOptions_of_error hplan recorder
  · intro plan hplan
    obtain ⟨hid, hcalls, hnext⟩ := Recorder.submit_eq plan recorder
    rw [uploadWithOptions_of_ok hplan]
    exact ⟨congrArg Except.ok hid, hnext, hcalls⟩

def LevelTable.grayPair (tail : Bytes) : LevelTable where
  format := .r8Unorm
  dimension := .d2
  levelCount := 2
  extent := ⟨2, 1, 1⟩
  levels :=
    [⟨.ok ⟨0, ⟨0, 2, 1⟩, ⟨2, 1, 1⟩⟩, .ok ⟨#[7, 9]⟩⟩, ⟨.ok ⟨1, ⟨0, 1, 1⟩, ⟨1, 1, 1⟩⟩, .ok tail⟩]

theorem uploadWithOptions_trace_grayPair :
    (∃ plan, UploadPlan.build (LevelTable.grayPair ⟨#[8]⟩).toSource (.ofUsage .textureBinding) =
        .ok plan ∧
      (uploadWithOptions (LevelTable.grayPair ⟨#[8]⟩).toSource (.ofUsage .textureBinding)
        Recorder.fresh).2.calls.length = 3) ∧
    UploadPlan.build (LevelTable.grayPair ⟨#[]⟩).toSource (.ofUsage .textureBinding) =
        .error (.levelTooShort 1 1 0) ∧
      uploadWithOptions (LevelTable.grayPair ⟨#[]⟩).toSource (.ofUsage .textureBinding)
        Recorder.fresh = (.error (.levelTooShort 1 1 0), Recorder.fresh) := by
  have hplanned : (UploadPlan.build (LevelTable.grayPair ⟨#[8]⟩).toSource
      (.ofUsage .textureBinding)).toOption.map (fun plan => plan.levels.length) = some 2 := by
    decide +kernel
  obtain ⟨plan, hplan, hlength⟩ := Outcome.exists_ok_of_toOption_map hplanned
  have hrefused : UploadPlan.build (LevelTable.grayPair ⟨#[]⟩).toSource (.ofUsage .textureBinding) =
      .error (.levelTooShort 1 1 0) := rfl
  obtain ⟨_, htrace, _⟩ := uploadWithOptions_trace (LevelTable.grayPair ⟨#[8]⟩).toSource
    (.ofUsage .textureBinding) Recorder.fresh
  obtain ⟨hunchanged, _⟩ := uploadWithOptions_trace (LevelTable.grayPair ⟨#[]⟩).toSource
    (.ofUsage .textureBinding) Recorder.fresh
  obtain ⟨_, _, hcalls⟩ := htrace plan hplan
  refine ⟨⟨plan, hplan, ?_⟩, hrefused, hunchanged _ hrefused⟩
  rw [hcalls, Recorder.calls_fresh, List.nil_append, List.length_cons, List.length_map, hlength]

end GpuTexture
