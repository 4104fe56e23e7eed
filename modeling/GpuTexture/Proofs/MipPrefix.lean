import Mathlib
import GpuTexture.Proofs.UploadTrace

/-!
# Uploading fewer levels

An upload that is asked for a number of levels plans that many, held between one and what the source
counts. Levels are planned in order and each for itself, so asking for fewer keeps the front of the
plan, and a level that cannot be planned matters only to the uploads that reach it.
-/

namespace GpuTexture

variable {source : TextureSource} {label : Option String} {usage : TextureUsages}
  {fewer more : Option UInt32} {levelCount count other : UInt32}

private theorem clampedMipCount_some_le :
    clampedMipCount levelCount (some count) ≤ clampedMipCount levelCount none := by
  change min (max count 1) (max levelCount 1) ≤ max levelCount 1
  exact Std.min_le_right

theorem clampedMipCount_mono (hle : count ≤ other) :
    clampedMipCount levelCount (some count) ≤ clampedMipCount levelCount (some other) := by
  change min (max count 1) (max levelCount 1) ≤ min (max other 1) (max levelCount 1)
  have hwords := UInt32.le_iff_toNat_le.mp hle
  simp only [UInt32.le_iff_toNat_le, UInt32.toNat_min, UInt32.toNat_max]
  omega

namespace UploadPlan

/-- The first levels of a plan, for a texture with no others. -/
def front (plan : UploadPlan) (count : UInt32) : UploadPlan :=
  ⟨{ plan.descriptor with mipLevelCount := count }, plan.levels.take count.toNat⟩

private theorem build_eq_front {plan : UploadPlan}
    (hle : clampedMipCount source.levelCount fewer ≤ clampedMipCount source.levelCount more)
    (hplan : build source ⟨label, more, usage⟩ = .ok plan) :
    build source ⟨label, fewer, usage⟩ =
      .ok (plan.front (clampedMipCount source.levelCount fewer)) := by
  obtain ⟨hdescriptor, hlength, hlevels⟩ := build_eq_ok_iff.mp hplan
  have hcount := UInt32.le_iff_toNat_le.mp hle
  refine build_eq_ok_iff.mpr ⟨?_, ?_, fun i hi => ?_⟩
  · rw [front, hdescriptor]
    rfl
  · rw [front, List.length_take, hlength]
    exact Nat.min_eq_left hcount
  · -- A level is planned without regard to how many are asked for.
    have hall : i < plan.levels.length := Nat.lt_of_lt_of_le hi (List.length_take_le' _ _)
    rw [hlevels i hall]
    exact congrArg Except.ok List.getElem_take.symm

/-- A failing level is no obstacle to an upload that ends before it. -/
private theorem exists_build_of_failsAt {options : UploadOptions} {mip : UInt32}
    {error : UploadError} (hfails : source.FailsAt mip error)
    (hle : clampedMipCount source.levelCount options.mipCount ≤ mip) :
    ∃ plan, build source options = .ok plan := by
  cases hplan : build source options with
  | ok plan => exact ⟨plan, rfl⟩
  | error other =>
    obtain ⟨earlier, hearlier, hrefused, _⟩ := build_eq_error_iff_failsAt.mp hplan
    obtain ⟨level, hlevel⟩ := hfails.2 earlier (UInt32.lt_of_lt_of_le hearlier hle)
    rw [hrefused] at hlevel
    cases hlevel

/-- What asking for a number of levels makes of an upload of all of them. A plan is cut to its first
levels. A source that fails at a level fails in the same way where that level is still asked for, and
can be planned where it is not. -/
theorem build_some_mipCount (source : TextureSource) (label : Option String)
    (usage : TextureUsages) :
    let available := max source.levelCount 1
    let kept := fun count : UInt32 => min (max count 1) available
    let planned := fun requested => build source ⟨label, requested, usage⟩
    (∀ plan, planned none = .ok plan → plan.levels.length = available.toNat ∧
        ∀ count, planned (some count) = .ok
          ⟨{ plan.descriptor with mipLevelCount := kept count },
            plan.levels.take (kept count).toNat⟩) ∧
      (∀ error, planned none = .error error ↔
        ∃ mip, mip < available ∧ source.FailsAt mip error) ∧
      (∀ mip error, mip < available → source.FailsAt mip error → ∀ count,
        (mip < kept count → planned (some count) = .error error) ∧
        (kept count ≤ mip → ∃ plan, planned (some count) = .ok plan)) ∧
      ∀ fewer more short long, fewer ≤ more →
        planned (some fewer) = .ok short → planned (some more) = .ok long →
        short.levels <+: long.levels ∧
          short.descriptor = { long.descriptor with mipLevelCount := kept fewer } := by
  refine ⟨?_, ?_, ?_, ?_⟩
  · intro plan hplan
    obtain ⟨_, hlength, _⟩ := build_eq_ok_iff.mp hplan
    exact ⟨hlength, fun count => build_eq_front clampedMipCount_some_le hplan⟩
  · intro error
    exact build_eq_error_iff_failsAt
  · intro mip error _ hfails count
    constructor
    · intro hreached
      exact build_eq_error_iff_failsAt.mpr ⟨mip, hreached, hfails⟩
    · intro hended
      exact exists_build_of_failsAt hfails hended
  · intro fewer more short long hle hshort hlong
    have hfront := build_eq_front (clampedMipCount_mono hle) hlong
    have hsame := Except.ok.inj (hshort.symm.trans hfront)
    subst hsame
    exact ⟨List.take_prefix _ _, rfl⟩

theorem build_some_mipCount_grayPair :
    (∃ plan one, build (LevelTable.grayPair ⟨#[8]⟩).toSource ⟨none, none, .textureBinding⟩ =
        .ok plan ∧
      build (LevelTable.grayPair ⟨#[8]⟩).toSource ⟨none, some 0, .textureBinding⟩ = .ok one ∧
      plan.levels.length = 2 ∧ one.levels = plan.levels.take 1 ∧ one.levels <+: plan.levels) ∧
    (LevelTable.grayPair ⟨#[]⟩).toSource.FailsAt 1 (.levelTooShort 1 1 0) ∧
      build (LevelTable.grayPair ⟨#[]⟩).toSource ⟨none, some 7, .textureBinding⟩ =
        .error (.levelTooShort 1 1 0) ∧
      ∃ plan, build (LevelTable.grayPair ⟨#[]⟩).toSource ⟨none, some 1, .textureBinding⟩ =
        .ok plan := by
  have hplanned : (build (LevelTable.grayPair ⟨#[8]⟩).toSource
      ⟨none, none, .textureBinding⟩).toOption.map (fun plan => plan.levels.length) = some 2 := by
    decide +kernel
  have hfails : (LevelTable.grayPair ⟨#[]⟩).toSource.FailsAt 1 (.levelTooShort 1 1 0) := by
    refine ⟨rfl, fun earlier hearlier => ?_⟩
    have hzero : earlier = 0 := UInt32.lt_one_iff.mp hearlier
    subst hzero
    exact ⟨_, rfl⟩
  obtain ⟨plan, hplan, hlength⟩ := Outcome.exists_ok_of_toOption_map hplanned
  obtain ⟨htaken, _, _, hprefix⟩ := build_some_mipCount (LevelTable.grayPair ⟨#[8]⟩).toSource none
    .textureBinding
  obtain ⟨_, _, hreached, _⟩ := build_some_mipCount (LevelTable.grayPair ⟨#[]⟩).toSource none
    .textureBinding
  obtain ⟨_, hcut⟩ := htaken plan hplan
  obtain ⟨hsame, _⟩ := hreached 1 _ (by decide) hfails 7
  obtain ⟨_, hended⟩ := hreached 1 _ (by decide) hfails 1
  refine ⟨⟨plan, _, hplan, hcut 0, hlength, rfl, ?_⟩, hfails, hsame (by decide), hended (by decide)⟩
  obtain ⟨hlevels, _⟩ := hprefix 0 2 _ _ (by decide) (hcut 0) (hcut 2)
  exact hlevels.trans (List.take_prefix _ _)

end UploadPlan

end GpuTexture
