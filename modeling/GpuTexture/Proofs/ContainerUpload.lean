import Mathlib
import GpuTexture.Proofs.LevelAccess
import GpuTexture.Proofs.PlannedLevels

/-!
# Uploading a container

A decoded container answers for every level it counts, so the only thing that can keep it from being
uploaded is a payload that is shorter than its layout. The smallest level with such a payload decides
the refusal; without one, the whole payloads are written, level after level.
-/

namespace GpuTexture

namespace Container

/-- How many levels of a container are uploaded: all, or those asked for, at least one and no more
than there are. -/
def uploadCount (container : Container) (requested : Option UInt32) : UInt32 :=
  match requested with
  | none => container.levelCount
  | some count => min (max count 1) container.levelCount

/-- The payload of a level holds at least the bytes of its layout. -/
def IsFull (container : Container) (mip : UInt32) : Prop :=
  ∃ entry level size, container.level mip = .ok entry ∧ container.levelLayout mip = .ok level ∧
    level.byteSize? = some size ∧ size ≤ entry.byteLength.toNat

/-- The payload of a level holds `actual` bytes, fewer than the `expected` bytes of its layout. -/
def IsShort (container : Container) (mip : UInt32) (expected actual : Nat) : Prop :=
  ∃ entry level, container.level mip = .ok entry ∧ container.levelLayout mip = .ok level ∧
    level.byteSize? = some expected ∧ entry.byteLength.toNat = actual ∧ actual < expected

/-- A call writes a whole level: all bytes that its entry names, with the layout and the extent of
the level. -/
def IsLevelWrite (container : Container) (texture : TextureId) (mip : UInt32) (call : DeviceCall) :
    Prop :=
  ∃ entry level, container.level mip = .ok entry ∧
    LevelLayout.compute container.block container.shape mip = .ok level ∧
    call = .writeTexture ⟨texture, mip, .zero, .all,
      container.bytes.extract entry.byteOffset.toNat
        (entry.byteOffset.toNat + entry.byteLength.toNat), level.layout, level.extent⟩

variable {container : Container} {bytes : Bytes} {mip : UInt32}

theorem uploadCount_le (container : Container) (requested : Option UInt32) :
    container.uploadCount requested ≤ container.levelCount := by
  cases requested with
  | none => exact UInt32.le_refl _
  | some count => exact Std.min_le_right

theorem IsShort.not_isFull {expected actual : Nat} (hshort : container.IsShort mip expected actual) :
    ¬ container.IsFull mip := by
  intro hisFull
  obtain ⟨entry, level, size, hentry, hlevel, hsize, hfull⟩ := hisFull
  obtain ⟨other, layout, hother, hlayout, hexpected, hactual, hless⟩ := hshort
  rw [hentry, Except.ok.injEq] at hother
  rw [hlevel, Except.ok.injEq] at hlayout
  subst hother hlayout
  rw [hsize, Option.some.injEq] at hexpected
  omega

namespace DecodedFrom

private theorem one_le_levelCount (hdecoded : container.DecodedFrom bytes) :
    1 ≤ container.levelCount := by
  rw [UInt32.le_iff_toNat_le, hdecoded.toNat_levelCount, hdecoded.size_levels]
  exact Nat.le_max_left _ _

/-- An upload never asks for a level that is not there. -/
theorem clampedMipCount_eq (hdecoded : container.DecodedFrom bytes) (requested : Option UInt32) :
    clampedMipCount container.levelCount requested = container.uploadCount requested := by
  have havailable : max container.levelCount 1 = container.levelCount := by
    have hone := UInt32.le_iff_toNat_le.mp hdecoded.one_le_levelCount
    rw [UInt32.toNat_one] at hone
    rw [← UInt32.toNat_inj, toNat_max_one, Nat.max_eq_right hone]
  cases requested with
  | none => exact havailable
  | some count =>
    rw [clampedMipCount, havailable]
    rfl

private theorem ofSource_cases (hdecoded : container.DecodedFrom bytes)
    (hmip : mip < container.levelCount) :
    (container.IsFull mip ∧ ∃ level, PlannedLevel.ofSource container.toSource mip = .ok level ∧
      ∀ texture, container.IsLevelWrite texture mip
        (.writeTexture (UploadPlan.levelWrite texture level))) ∨
    ∃ expected actual, container.IsShort mip expected actual ∧
      PlannedLevel.ofSource container.toSource mip =
        .error (.levelTooShort mip expected actual) := by
  obtain ⟨entry, _, _, hend, hlevel, hdata, hlayout⟩ := hdecoded.access_eq_ok hmip
  have hsize := hdecoded.byteSize?_eq mip
  have hlength : (bytes.extract entry.byteOffset.toNat entry.byteEnd).size =
      entry.byteLength.toNat := by
    rw [ByteArray.size_extract, Nat.min_eq_left hend, LevelEntry.byteEnd]
    omega
  rcases Nat.lt_or_ge entry.byteLength.toNat (container.block.packedBytes container.shape mip) with
    hless | hfull
  · have hshort : container.toSource.Refuses mip _ :=
      .tooShort hlayout hdata hsize (lt_of_eq_of_lt hlength hless)
    rw [hlength] at hshort
    exact .inr ⟨_, _, ⟨entry, _, hlevel, hlayout, hsize, rfl, hless⟩,
      PlannedLevel.ofSource_of_refuses hshort⟩
  · have hplanned : PlannedLevel.ofSource container.toSource mip = _ :=
      PlannedLevel.ofSource_of_delivered hlayout hdata hsize (le_of_le_of_eq hfull hlength.symm)
    refine .inl ⟨⟨entry, _, _, hlevel, hlayout, hsize, hfull⟩, _, hplanned, fun texture => ?_⟩
    refine ⟨entry, _, hlevel, hdecoded.compute_eq mip, ?_⟩
    rw [hdecoded.bytes_eq]
    rfl

private theorem of_ofSource_eq_ok (hdecoded : container.DecodedFrom bytes)
    (hmip : mip < container.levelCount) {level : PlannedLevel}
    (hplanned : PlannedLevel.ofSource container.toSource mip = .ok level) :
    container.IsFull mip ∧ ∀ texture, container.IsLevelWrite texture mip
      (.writeTexture (UploadPlan.levelWrite texture level)) := by
  rcases hdecoded.ofSource_cases hmip with ⟨hfull, other, hother, hwrite⟩ | ⟨_, _, _, hrefused⟩
  · rw [hplanned, Except.ok.injEq] at hother
    subst hother
    exact ⟨hfull, hwrite⟩
  · rw [hplanned] at hrefused
    cases hrefused

private theorem of_ofSource_eq_error (hdecoded : container.DecodedFrom bytes)
    (hmip : mip < container.levelCount) {error : UploadError}
    (hrefused : PlannedLevel.ofSource container.toSource mip = .error error) :
    ∃ expected actual, error = .levelTooShort mip expected actual ∧
      container.IsShort mip expected actual := by
  rcases hdecoded.ofSource_cases hmip with ⟨_, level, hplanned, _⟩ | ⟨_, _, hshort, hother⟩
  · rw [hplanned] at hrefused
    cases hrefused
  · rw [hrefused, Except.error.injEq] at hother
    exact ⟨_, _, hother, hshort⟩

theorem of_build_eq_ok (hdecoded : container.DecodedFrom bytes) {options : UploadOptions}
    {plan : UploadPlan} (hplan : UploadPlan.build container.toSource options = .ok plan) :
    plan.descriptor = container.toSource.descriptor options ∧
      plan.levels.length = (container.uploadCount options.mipCount).toNat ∧
      ∀ i (hi : i < plan.levels.length), container.IsFull (.ofNat i) ∧
        ∀ texture, container.IsLevelWrite texture (.ofNat i)
          (.writeTexture (UploadPlan.levelWrite texture plan.levels[i])) := by
  obtain ⟨hdescriptor, hlength, hlevels⟩ := UploadPlan.build_eq_ok_iff.mp hplan
  have hcount := congrArg UInt32.toNat (hdecoded.clampedMipCount_eq options.mipCount)
  have hlength := hlength.trans hcount
  refine ⟨hdescriptor, hlength, fun i hi => ?_⟩
  obtain ⟨hmip, _⟩ := ofNat_lt_word (hlength ▸ hi)
  exact hdecoded.of_ofSource_eq_ok
    (UInt32.lt_of_lt_of_le hmip (container.uploadCount_le options.mipCount)) (hlevels i hi)

theorem of_build_eq_error (hdecoded : container.DecodedFrom bytes) {options : UploadOptions}
    {error : UploadError} (hplan : UploadPlan.build container.toSource options = .error error) :
    ∃ mip expected actual, mip < container.uploadCount options.mipCount ∧
      error = .levelTooShort mip expected actual ∧ container.IsShort mip expected actual ∧
      ∀ earlier, earlier < mip → container.IsFull earlier := by
  obtain ⟨mip, hmip, hrefused, hbefore⟩ := UploadPlan.build_eq_error_iff_failsAt.mp hplan
  have hmip := lt_of_lt_of_eq hmip (hdecoded.clampedMipCount_eq options.mipCount)
  have hcounted := UInt32.lt_of_lt_of_le hmip (container.uploadCount_le options.mipCount)
  obtain ⟨expected, actual, herror, hshort⟩ := hdecoded.of_ofSource_eq_error hcounted hrefused
  refine ⟨mip, expected, actual, hmip, herror, hshort, fun earlier hearlier => ?_⟩
  obtain ⟨level, hplanned⟩ := hbefore earlier hearlier
  exact (hdecoded.of_ofSource_eq_ok (UInt32.lt_trans hearlier hcounted) hplanned).1

end DecodedFrom

/-- Uploading a decoded container, which keeps the bytes it was decoded from, to a recording device.
It succeeds exactly when every level that is uploaded is full. Then it adds the creation of the texture
and one write for each level, in order, behind the calls that are there. Otherwise it is refused for
the smallest short level, and the device is left as it was. -/
theorem upload_of_decode (haccepted : decode bytes = .ok container) (options : UploadOptions)
    (recorder : Recorder) :
    let count := container.uploadCount options.mipCount
    let outcome := uploadWithOptions container.toSource options recorder
    container.bytes = bytes ∧
      ((∃ texture next, outcome = (.ok texture, next)) ↔
        ∀ mip, mip < count → container.IsFull mip) ∧
      (∀ texture next, outcome = (.ok texture, next) →
        texture = recorder.nextId ∧ next.nextId = ⟨recorder.nextId.index + 1⟩ ∧
        ∃ writes : List DeviceCall, writes.length = count.toNat ∧
          next.calls = recorder.calls ++ .createTexture recorder.nextId
            { label := options.label
              usage := options.usage.union .copyDst
              dimension := container.shape.dimension
              size := container.extent
              format := container.format
              mipLevelCount := count
              sampleCount := 1
              viewFormats := [container.format] } :: writes ∧
          ∀ mip (hmip : mip < writes.length),
            container.IsLevelWrite recorder.nextId (.ofNat mip) writes[mip]) ∧
      ∀ error next, outcome = (.error error, next) →
        next = recorder ∧ ∃ mip expected actual, mip < count ∧
          error = .levelTooShort mip expected actual ∧ container.IsShort mip expected actual ∧
          ∀ earlier, earlier < mip → container.IsFull earlier := by
  have hdecoded := DecodedFrom.of_decode haccepted
  have hcount := hdecoded.clampedMipCount_eq options.mipCount
  dsimp only
  cases hplan : UploadPlan.build container.toSource options with
  | ok plan =>
    obtain ⟨hdescriptor, hlength, hlevels⟩ := hdecoded.of_build_eq_ok hplan
    obtain ⟨htexture, hcalls, hnext⟩ := Recorder.submit_eq plan recorder
    rw [uploadWithOptions_of_ok hplan]
    refine ⟨hdecoded.bytes_eq, ⟨fun _ mip hmip => ?_, fun _ => ⟨_, _, rfl⟩⟩, ?_, nofun⟩
    · have hindex : mip.toNat < plan.levels.length := by
        rw [hlength]
        exact UInt32.lt_iff_toNat_lt.mp hmip
      have hfull := (hlevels mip.toNat hindex).1
      rw [UInt32.ofNat_toNat] at hfull
      exact hfull
    · intro texture next houtcome
      cases houtcome
      refine ⟨htexture, hnext, plan.levels.map fun level =>
        .writeTexture (UploadPlan.levelWrite recorder.nextId level), ?_, ?_, ?_⟩
      · rw [List.length_map, hlength]
      · rw [hcalls, UploadPlan.calls, hdescriptor, ← hcount]
        rfl
      · intro mip hmip
        rw [List.getElem_map]
        exact (hlevels mip (by simpa using hmip)).2 recorder.nextId
  | error error =>
    obtain ⟨mip, expected, actual, hmip, herror, hshort, hbefore⟩ :=
      hdecoded.of_build_eq_error hplan
    rw [uploadWithOptions_of_error hplan]
    refine ⟨hdecoded.bytes_eq, ⟨?_, fun hfull => absurd (hfull mip hmip) hshort.not_isFull⟩, ?_, ?_⟩
    · intro hsuccess
      obtain ⟨_, _, houtcome⟩ := hsuccess
      cases houtcome
    · intro texture next houtcome
      cases houtcome
    · intro other next houtcome
      cases houtcome
      exact ⟨rfl, mip, expected, actual, hmip, herror, hshort, hbefore⟩

theorem upload_of_twoTexels :
    ∃ container next, decode (Draft.twoTexels .smallestFirst).write = .ok container ∧
      uploadWithOptions container.toSource (.ofUsage .textureBinding) Recorder.fresh =
        (.ok ⟨0⟩, next) ∧
      container.IsFull 1 ∧ next.calls.length = 3 := by
  obtain ⟨container, haccepted, hcount⟩ := exists_decode_twoTexels
  have hsuccess : (decode (Draft.twoTexels .smallestFirst).write).toOption.map (fun container =>
      (uploadWithOptions container.toSource (.ofUsage .textureBinding) Recorder.fresh).1) =
        some (.ok ⟨0⟩) := by
    decide +kernel
  rw [haccepted] at hsuccess
  obtain ⟨next, houtcome⟩ : ∃ next,
      uploadWithOptions container.toSource (.ofUsage .textureBinding) Recorder.fresh =
        (.ok ⟨0⟩, next) := ⟨_, Prod.ext (Option.some.inj hsuccess) rfl⟩
  obtain ⟨_, hfull, htrace, _⟩ :=
    upload_of_decode haccepted (.ofUsage .textureBinding) Recorder.fresh
  obtain ⟨_, _, writes, hlength, hcalls, _⟩ := htrace _ _ houtcome
  refine ⟨container, next, haccepted, houtcome, hfull.mp ⟨_, _, houtcome⟩ 1 ?_, ?_⟩
  · change 1 < container.levelCount
    rw [hcount]
    decide
  · have htwo : writes.length = 2 := hlength.trans (congrArg UInt32.toNat hcount)
    rw [hcalls, Recorder.calls_fresh, List.nil_append, List.length_cons, htwo]

end Container

end GpuTexture
