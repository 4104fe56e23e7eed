import Mathlib
import GpuTexture.Proofs.UploadTrace

/-!
# Planning any source

The answers of a source may be anything: they need not fit together, and they may go on or end where
its level count does not say so. A level is delivered when both of its answers are there, its layout
has a byte size, and its bytes reach that far; otherwise the level is refused for the first of these
that is missing. A plan takes delivered levels one after the other, up to the number asked for, and
no answer beyond that number matters.
-/

namespace GpuTexture

namespace TextureSource

/-- A level is delivered: its layout has a byte size, and there are at least as many bytes. -/
def Delivers (source : TextureSource) (mip : UInt32) : Prop :=
  ∃ level data expected, source.levelLayout mip = .ok level ∧ source.levelData mip = .ok data ∧
    level.byteSize? = some expected ∧ expected ≤ data.size

/-- Why a level is refused. The layout comes before the bytes, and both before their sizes. -/
inductive Refuses (source : TextureSource) (mip : UInt32) : UploadError → Prop where
  | noLayout {error : TextureError} : source.levelLayout mip = .error error →
      source.Refuses mip (.source error)
  | noData {level : LevelLayout} {error : TextureError} : source.levelLayout mip = .ok level →
      source.levelData mip = .error error → source.Refuses mip (.source error)
  | noSize {level : LevelLayout} {data : Bytes} : source.levelLayout mip = .ok level →
      source.levelData mip = .ok data → level.byteSize? = none →
      source.Refuses mip (.source (.layoutOverflow mip))
  | tooShort {level : LevelLayout} {data : Bytes} {expected : Nat} :
      source.levelLayout mip = .ok level → source.levelData mip = .ok data →
      level.byteSize? = some expected → data.size < expected →
      source.Refuses mip (.levelTooShort mip expected data.size)

/-- Two sources give the same answers, as far as levels below `count` are concerned. -/
structure AgreesBelow (source other : TextureSource) (count : Nat) : Prop where
  format_eq : source.format = other.format
  dimension_eq : source.dimension = other.dimension
  levelCount_eq : source.levelCount = other.levelCount
  extent_eq : source.extent = other.extent
  levelLayout_eq : ∀ mip : UInt32, mip.toNat < count →
    source.levelLayout mip = other.levelLayout mip
  levelData_eq : ∀ mip : UInt32, mip.toNat < count → source.levelData mip = other.levelData mip

end TextureSource

variable {source other : TextureSource} {mip : UInt32} {count first : Nat}

theorem TextureSource.delivers_or_refuses (source : TextureSource) (mip : UInt32) :
    source.Delivers mip ∨ ∃ error, source.Refuses mip error := by
  cases hlevel : source.levelLayout mip with
  | error error => exact .inr ⟨_, .noLayout hlevel⟩
  | ok level =>
    cases hdata : source.levelData mip with
    | error error => exact .inr ⟨_, .noData hlevel hdata⟩
    | ok data =>
      cases hsize : level.byteSize? with
      | none => exact .inr ⟨_, .noSize hlevel hdata hsize⟩
      | some expected =>
        rcases Nat.lt_or_ge data.size expected with hshort | hfull
        · exact .inr ⟨_, .tooShort hlevel hdata hsize hshort⟩
        · exact .inl ⟨level, data, expected, hlevel, hdata, hsize, hfull⟩

namespace PlannedLevel

theorem ofSource_of_delivered {level : LevelLayout} {data : Bytes} {expected : Nat}
    (hlevel : source.levelLayout mip = .ok level) (hdata : source.levelData mip = .ok data)
    (hsize : level.byteSize? = some expected) (hfull : expected ≤ data.size) :
    ofSource source mip = .ok ⟨mip, data, level.layout, level.extent⟩ := by
  simp [ofSource, hlevel, hdata, hsize, Nat.not_lt.mpr hfull]

theorem ofSource_of_refuses {error : UploadError} (hrefuses : source.Refuses mip error) :
    ofSource source mip = .error error := by
  cases hrefuses with
  | noLayout hlevel => simp [ofSource, hlevel]
  | noData hlevel hdata => simp [ofSource, hlevel, hdata]
  | noSize hlevel hdata hsize => simp [ofSource, hlevel, hdata, hsize]
  | tooShort hlevel hdata hsize hshort => simp [ofSource, hlevel, hdata, hsize, hshort]

theorem ofSource_eq_ok_iff {planned : PlannedLevel} : ofSource source mip = .ok planned ↔
    ∃ level data expected, source.levelLayout mip = .ok level ∧ source.levelData mip = .ok data ∧
      level.byteSize? = some expected ∧ expected ≤ data.size ∧
      planned = ⟨mip, data, level.layout, level.extent⟩ := by
  constructor
  · intro hplanned
    rcases source.delivers_or_refuses mip with
      ⟨level, data, expected, hlevel, hdata, hsize, hfull⟩ | ⟨error, hrefuses⟩
    · rw [ofSource_of_delivered hlevel hdata hsize hfull] at hplanned
      cases hplanned
      exact ⟨level, data, expected, hlevel, hdata, hsize, hfull, rfl⟩
    · rw [ofSource_of_refuses hrefuses] at hplanned
      cases hplanned
  · rintro ⟨level, data, expected, hlevel, hdata, hsize, hfull, rfl⟩
    exact ofSource_of_delivered hlevel hdata hsize hfull

theorem ofSource_eq_error_iff {error : UploadError} :
    ofSource source mip = .error error ↔ source.Refuses mip error := by
  constructor
  · intro hrefused
    rcases source.delivers_or_refuses mip with
      ⟨level, data, expected, hlevel, hdata, hsize, hfull⟩ | ⟨other, hrefuses⟩
    · rw [ofSource_of_delivered hlevel hdata hsize hfull] at hrefused
      cases hrefused
    · rw [ofSource_of_refuses hrefuses] at hrefused
      cases hrefused
      exact hrefuses
  · exact ofSource_of_refuses

theorem exists_ofSource_iff : (∃ planned, ofSource source mip = .ok planned) ↔ source.Delivers mip := by
  simp [ofSource_eq_ok_iff, TextureSource.Delivers]

end PlannedLevel

private theorem TextureSource.failsAt_iff {error : UploadError} : source.FailsAt mip error ↔
    source.Refuses mip error ∧ ∀ earlier, earlier < mip → source.Delivers earlier := by
  simp only [FailsAt, PlannedLevel.ofSource_eq_error_iff, PlannedLevel.exists_ofSource_iff]

theorem toNat_clampedMipCount (levelCount : UInt32) (requested : Option UInt32) :
    (clampedMipCount levelCount requested).toNat =
      match requested with
      | none => max 1 levelCount.toNat
      | some asked => min (max 1 asked.toNat) (max 1 levelCount.toNat) := by
  cases requested <;> simp [clampedMipCount, UInt32.toNat_min, toNat_max_one]

/-! ## Answers that matter -/

private theorem PlannedLevel.ofSource_congr
    (hlayout : source.levelLayout mip = other.levelLayout mip)
    (hdata : source.levelData mip = other.levelData mip) :
    ofSource source mip = ofSource other mip := by
  rw [ofSource, ofSource, hlayout, hdata]

private theorem gatherLevels_congr (hlevels : ∀ i < count,
      PlannedLevel.ofSource source (.ofNat (first + i)) =
        PlannedLevel.ofSource other (.ofNat (first + i))) :
    gatherLevels source count first = gatherLevels other count first := by
  induction count generalizing first with
  | zero => rfl
  | succ count ih =>
    have hhead := hlevels 0 (Nat.zero_lt_succ _)
    have htail : gatherLevels source count (first + 1) = gatherLevels other count (first + 1) := by
      apply ih
      intro i hi
      have hnext := hlevels (i + 1) (Nat.succ_lt_succ hi)
      rwa [← Nat.add_assoc, Nat.add_right_comm] at hnext
    rw [Nat.add_zero] at hhead
    rw [gatherLevels, gatherLevels, hhead, htail]

namespace UploadPlan

variable {options : UploadOptions}

theorem build_congr (hagree : source.AgreesBelow other
      (clampedMipCount other.levelCount options.mipCount).toNat) :
    build source options = build other options := by
  have hdescriptor : source.descriptor options = other.descriptor options := by
    simp only [TextureSource.descriptor, hagree.format_eq, hagree.dimension_eq,
      hagree.levelCount_eq, hagree.extent_eq]
  have hgathered : gatherLevels source (clampedMipCount other.levelCount options.mipCount).toNat 0 =
      gatherLevels other (clampedMipCount other.levelCount options.mipCount).toNat 0 := by
    apply gatherLevels_congr
    intro i hi
    rw [Nat.zero_add]
    have hbelow : (UInt32.ofNat i).toNat <
        (clampedMipCount other.levelCount options.mipCount).toNat := by
      rwa [(ofNat_lt_word hi).2]
    exact PlannedLevel.ofSource_congr (hagree.levelLayout_eq _ hbelow)
      (hagree.levelData_eq _ hbelow)
  rw [build_eq, build_eq, hagree.levelCount_eq, hgathered, hdescriptor]

/-- Planning a source with any answers. As many levels are asked for as the source counts, or as are
requested, at least one and no more than there are. A plan exists exactly when each of them is
delivered. It holds the answers for them in order, numbered by their places whatever their layouts
say, and describes a texture that can be copied to besides all usages requested, known or not.
Otherwise the smallest level that is refused decides. Answers for the levels beyond are not
needed. -/
theorem build_of_answers (source : TextureSource) (options : UploadOptions) :
    let available := max 1 source.levelCount.toNat
    let count := match options.mipCount with
      | none => available
      | some asked => min (max 1 asked.toNat) available
    ((∃ plan, build source options = .ok plan) ↔
        ∀ mip : UInt32, mip.toNat < count → source.Delivers mip) ∧
      (∀ plan, build source options = .ok plan →
        plan.levels.length = count ∧ plan.descriptor.mipLevelCount.toNat = count ∧
        (∀ mip : UInt32, mip.toNat < count → ∃ level data,
          source.levelLayout mip = .ok level ∧ source.levelData mip = .ok data ∧
          plan.levels[mip.toNat]? = some
            { mip := mip
              data := data
              layout := level.layout
              extent := level.extent }) ∧
        plan.descriptor =
          { label := options.label
            usage := ⟨options.usage.bits ||| 0x02⟩
            dimension := source.dimension
            size := source.extent
            format := source.format
            mipLevelCount := .ofNat count
            sampleCount := 1
            viewFormats := [source.format] }) ∧
      (∀ error, build source options = .error error ↔
        ∃ mip : UInt32, mip.toNat < count ∧ source.Refuses mip error ∧
          ∀ earlier, earlier < mip → source.Delivers earlier) ∧
      ∀ other : TextureSource, other.AgreesBelow source count →
        build other options = build source options := by
  intro available count
  have hcount : (clampedMipCount source.levelCount options.mipCount).toNat = count :=
    toNat_clampedMipCount source.levelCount options.mipCount
  have herror : ∀ error, build source options = .error error ↔
      ∃ mip : UInt32, mip.toNat < count ∧ source.Refuses mip error ∧
        ∀ earlier, earlier < mip → source.Delivers earlier := by
    intro error
    simp only [build_eq_error_iff_failsAt, TextureSource.failsAt_iff, UInt32.lt_iff_toNat_lt,
      hcount]
  have hlevels : ∀ plan, build source options = .ok plan → ∀ mip : UInt32, mip.toNat < count →
      ∃ planned, plan.levels[mip.toNat]? = some planned ∧
        PlannedLevel.ofSource source mip = .ok planned := by
    intro plan hplan mip hmip
    obtain ⟨_, hlength, hplanned⟩ := build_eq_ok_iff.mp hplan
    rw [← hcount, ← hlength] at hmip
    have hlevel := hplanned mip.toNat hmip
    rw [UInt32.ofNat_toNat] at hlevel
    exact ⟨_, List.getElem?_eq_getElem hmip, hlevel⟩
  refine ⟨⟨?_, ?_⟩, ?_, herror, ?_⟩
  · rintro ⟨plan, hplan⟩ mip hmip
    obtain ⟨planned, _, hplanned⟩ := hlevels plan hplan mip hmip
    exact PlannedLevel.exists_ofSource_iff.mp ⟨planned, hplanned⟩
  · intro hdelivers
    cases hplan : build source options with
    | ok plan => exact ⟨plan, rfl⟩
    | error error =>
      -- The level that decides the refusal would be delivered as well.
      obtain ⟨mip, hmip, hrefuses, _⟩ := (herror error).mp hplan
      obtain ⟨planned, hplanned⟩ := PlannedLevel.exists_ofSource_iff.mpr (hdelivers mip hmip)
      rw [PlannedLevel.ofSource_of_refuses hrefuses] at hplanned
      cases hplanned
  · intro plan hplan
    obtain ⟨hdescriptor, hlength, _⟩ := build_eq_ok_iff.mp hplan
    refine ⟨hlength.trans hcount, ?_, ?_, ?_⟩
    · rw [hdescriptor]
      exact hcount
    · intro mip hmip
      obtain ⟨planned, hat, hplanned⟩ := hlevels plan hplan mip hmip
      obtain ⟨level, data, _, hlevel, hdata, _, _, rfl⟩ :=
        PlannedLevel.ofSource_eq_ok_iff.mp hplanned
      exact ⟨level, data, hlevel, hdata, hat⟩
    · rw [hdescriptor, ← hcount, UInt32.ofNat_toNat]
      rfl
  · intro other hagree
    apply build_congr
    rwa [hcount]

end UploadPlan

/-- A table whose answers do not fit together: its base level names another level and holds a byte
too many, and the bytes of its next level cannot be counted. -/
def LevelTable.crossed (levelCount : UInt32) : LevelTable where
  format := .r8Unorm
  dimension := .d2
  levelCount := levelCount
  extent := ⟨2, 1, 1⟩
  levels :=
    [⟨.ok ⟨7, ⟨0, 2, 1⟩, ⟨2, 1, 1⟩⟩, .ok ⟨#[7, 9, 11]⟩⟩,
      ⟨.ok ⟨1, ⟨0, 0xFFFFFFFF, 0xFFFFFFFF⟩, ⟨1, 1, 0xFFFFFFFF⟩⟩, .ok ⟨#[]⟩⟩]

/-- A source that counts no level is planned for its base level, with a usage that has no name. One
that counts two is refused for the second, whatever more is asked for, and planned where only one is
asked for, as if its second level were not there. -/
theorem UploadPlan.build_of_answers_crossed :
    (∃ plan, build (LevelTable.crossed 0).toSource ⟨none, none, ⟨0x80000000⟩⟩ = .ok plan ∧
      plan.levels[0]? = some ⟨0, ⟨#[7, 9, 11]⟩, ⟨0, 2, 1⟩, ⟨2, 1, 1⟩⟩ ∧
      plan.descriptor.usage = ⟨0x80000002⟩) ∧
    build (LevelTable.crossed 2).toSource ⟨none, some 9, .empty⟩ =
      .error (.source (.layoutOverflow 1)) ∧
    build { LevelTable.crossed 2 with levels := (LevelTable.crossed 2).levels.take 1 }.toSource
        ⟨none, some 1, .empty⟩ =
      build (LevelTable.crossed 2).toSource ⟨none, some 1, .empty⟩ := by
  have hbase : ∀ levelCount, (LevelTable.crossed levelCount).toSource.Delivers 0 := by
    intro levelCount
    exact ⟨_, _, 2, rfl, rfl, rfl, by decide⟩
  have hzero : ∀ mip : UInt32, mip.toNat < 1 → mip = 0 := by
    intro mip hmip
    rw [← UInt32.toNat_inj, UInt32.toNat_zero]
    omega
  have hnext : (LevelTable.crossed 2).toSource.Refuses 1 (.source (.layoutOverflow 1)) :=
    .noSize rfl rfl rfl
  obtain ⟨hexists, hplan, _, _⟩ :=
    build_of_answers (LevelTable.crossed 0).toSource ⟨none, none, ⟨0x80000000⟩⟩
  obtain ⟨_, _, hrefused, _⟩ := build_of_answers (LevelTable.crossed 2).toSource ⟨none, some 9, .empty⟩
  obtain ⟨_, _, _, hagree⟩ := build_of_answers (LevelTable.crossed 2).toSource ⟨none, some 1, .empty⟩
  refine ⟨?_, ?_, ?_⟩
  · obtain ⟨plan, hbuilt⟩ := hexists.mpr fun mip hmip => hzero mip hmip ▸ hbase 0
    obtain ⟨_, _, hlevels, hdescriptor⟩ := hplan plan hbuilt
    obtain ⟨level, data, hlevel, hdata, hat⟩ := hlevels 0 (by decide)
    cases hlevel
    cases hdata
    exact ⟨plan, hbuilt, hat, congrArg TextureDescriptor.usage hdescriptor⟩
  · refine (hrefused _).mpr ⟨1, by decide, hnext, fun earlier hearlier => ?_⟩
    exact hzero earlier (UInt32.lt_iff_toNat_lt.mp hearlier) ▸ hbase 2
  · apply hagree
    refine ⟨rfl, rfl, rfl, rfl, fun mip hmip => ?_, fun mip hmip => ?_⟩
    · rw [hzero mip hmip]
      rfl
    · rw [hzero mip hmip]
      rfl

end GpuTexture
