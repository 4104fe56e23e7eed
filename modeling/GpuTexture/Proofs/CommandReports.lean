import Mathlib
import GpuTexture.Cli.Run
import GpuTexture.Proofs.ContainerUpload
import GpuTexture.Proofs.JsonForms
import GpuTexture.Proofs.PayloadLengths
import GpuTexture.Proofs.PlannedLevels

/-!
# What the commands report

Both commands read the same textures: a file that has a plan has a report. For a container the gap
between the two is a level whose payload is too short. A plan printed as JSON is read back level by
level.
-/

namespace GpuTexture

namespace UploadPlan

/-- Whether a source can be planned does not depend on the label and the usage. -/
theorem exists_build_eq_ok_iff (source : TextureSource) (label other : Option String)
    (mipCount : Option UInt32) (usage otherUsage : TextureUsages) :
    (∃ plan, build source ⟨label, mipCount, usage⟩ = .ok plan) ↔
      ∃ plan, build source ⟨other, mipCount, otherUsage⟩ = .ok plan := by
  rw [build_eq, build_eq]
  cases gatherLevels source (clampedMipCount source.levelCount mipCount).toNat 0 <;> simp

private theorem toNat_foldl_add (levels : List PlannedLevel) (total : UInt64) :
    (levels.foldl (fun total level => total + UInt64.ofNat level.data.size) total).toNat =
      (total.toNat + (levels.map fun level => level.data.size).sum) % 2 ^ 64 := by
  induction levels generalizing total with
  | nil => simp [Nat.mod_eq_of_lt total.toNat_lt]
  | cons level rest ih =>
    rw [List.foldl_cons, ih, UInt64.toNat_add, UInt64.toNat_ofNat', List.map_cons, List.sum_cons,
      Nat.add_mod_mod, Nat.mod_add_mod, Nat.add_assoc]

theorem toNat_totalBytes {plan : UploadPlan}
    (hsmall : (plan.levels.map fun level => level.data.size).sum < 2 ^ 64) :
    plan.totalBytes.toNat = (plan.levels.map fun level => level.data.size).sum := by
  rw [totalBytes, toNat_foldl_add, UInt64.toNat_zero, Nat.zero_add, Nat.mod_eq_of_lt hsmall]

end UploadPlan

private theorem PlannedLevel.mip_of_ofSource {source : TextureSource} {mip : UInt32}
    {level : PlannedLevel} (hplanned : PlannedLevel.ofSource source mip = .ok level) :
    level.mip = mip := by
  obtain ⟨_, _, _, _, _, _, _, rfl⟩ := ofSource_eq_ok_iff.mp hplanned
  rfl

/-- A container cannot be planned exactly when one of the levels asked for is too short. -/
private theorem Container.DecodedFrom.exists_build_eq_error_iff {bytes : Bytes}
    {container : Container} (hdecoded : container.DecodedFrom bytes) (options : UploadOptions) :
    (∃ error, UploadPlan.build container.toSource options = .error error) ↔
      ∃ mip expected actual, mip < clampedMipCount container.levelCount options.mipCount ∧
        container.IsShort mip expected actual := by
  rw [hdecoded.clampedMipCount_eq]
  constructor
  · intro hrefused
    obtain ⟨error, hplan⟩ := hrefused
    obtain ⟨mip, expected, actual, hmip, _, hshort, _⟩ := hdecoded.of_build_eq_error hplan
    exact ⟨mip, expected, actual, hmip, hshort⟩
  · intro hexists
    obtain ⟨mip, expected, actual, hmip, hshort⟩ := hexists
    cases hplan : UploadPlan.build container.toSource options with
    | error error => exact ⟨error, rfl⟩
    | ok plan =>
      obtain ⟨_, hlength, hlevels⟩ := hdecoded.of_build_eq_ok hplan
      have hindex : mip.toNat < plan.levels.length :=
        hlength ▸ UInt32.lt_iff_toNat_lt.mp hmip
      have hfull := (hlevels mip.toNat hindex).1
      rw [UInt32.ofNat_toNat] at hfull
      exact absurd hfull hshort.not_isFull

namespace Cli

variable {decodePicture : PictureDecoder} {printJson : JsonPrinter} {readJson : JsonReader}
  {path : String} {file : Except FileError Bytes} {mipCount : Option UInt32}

theorem exists_infoReport_iff : (∃ output, infoReport decodePicture path file = .ok output) ↔
    ∃ bytes source, file = .ok bytes ∧ loadWith decodePicture bytes = .ok source := by
  cases file with
  | error error =>
    constructor
    · intro hreport
      obtain ⟨output, houtput⟩ := hreport
      cases houtput
    · intro hloaded
      obtain ⟨_, _, hfile, _⟩ := hloaded
      cases hfile
  | ok bytes =>
    have hloaded : (∃ other source, (.ok bytes : Except FileError Bytes) = .ok other ∧
        loadWith decodePicture other = .ok source) ↔
          ∃ source, loadWith decodePicture bytes = .ok source := by
      simp
    rw [hloaded, infoReport, loadWith, Outcome.mapError_ok, Outcome.ok_bind]
    -- Both commands tell containers from pictures by the same leading bytes.
    cases hcontainer : isKtx2 bytes with
    | true => cases Container.decode bytes <;> simp
    | false => cases hpicture : decodePicture bytes <;> simp [loadWith, hcontainer, hpicture]

theorem openWith_eq_ok_iff {source : TextureSource} : openWith decodePicture file = .ok source ↔
    ∃ bytes, file = .ok bytes ∧ loadWith decodePicture bytes = .ok source := by
  rw [openWith, Outcome.bind_eq_ok_iff]
  simp only [Outcome.mapError_eq_ok_iff]

theorem planFile_eq_ok_iff {plan : UploadPlan} {source : TextureSource} :
    planFile decodePicture path file mipCount = .ok (plan, source) ↔
      ∃ bytes, file = .ok bytes ∧ loadWith decodePicture bytes = .ok source ∧
        UploadPlan.build source ⟨fileName? path, mipCount, .textureBinding⟩ = .ok plan := by
  simp only [planFile, Outcome.bind_eq_ok_iff, Outcome.mapError_eq_ok_iff, openWith_eq_ok_iff,
    Outcome.pure_eq_ok, Except.ok.injEq, Prod.mk.injEq]
  constructor
  · intro hplan
    obtain ⟨_, ⟨bytes, hfile, hloaded⟩, _, hbuilt, rfl, rfl⟩ := hplan
    exact ⟨bytes, hfile, hloaded, hbuilt⟩
  · intro hplan
    obtain ⟨bytes, hfile, hloaded, hbuilt⟩ := hplan
    exact ⟨source, ⟨bytes, hfile, hloaded⟩, plan, hbuilt, rfl, rfl⟩

private theorem planReport_table_eq_ok_iff {output : String} :
    planReport decodePicture printJson path file mipCount false = .ok output ↔
      ∃ plan source, planFile decodePicture path file mipCount = .ok (plan, source) ∧
        planTable plan source.levelCount = output := by
  rw [planReport, Outcome.bind_eq_ok_iff, Prod.exists]
  simp

private theorem planReport_json_eq_ok_iff {output : String} :
    planReport decodePicture printJson path file mipCount true = .ok output ↔
      ∃ plan source, planFile decodePicture path file mipCount = .ok (plan, source) ∧
        ∃ text, printJson (planJson plan) = .ok text ∧ text ++ "\n" = output := by
  rw [planReport, Outcome.bind_eq_ok_iff, Prod.exists]
  simp [Outcome.bind_eq_ok_iff, Outcome.mapError_eq_ok_iff]

/-! ## Plans as JSON -/

private theorem isPlain_levelJson (level : PlannedLevel) : (levelJson level).IsPlain := by
  apply Json.IsPlain.object (by simp)
  simp [LawfulJsonForm.isPlain]

theorem isPlain_planJson (plan : UploadPlan) : (planJson plan).IsPlain := by
  have hlevels : (Json.array (plan.levels.map levelJson)).IsPlain := by
    apply Json.IsPlain.array
    intro item hitem
    obtain ⟨level, _, rfl⟩ := List.mem_map.mp hitem
    exact isPlain_levelJson level
  have hformat : (toJson plan.descriptor.format).IsPlain := .string _
  have hdimension : (toJson plan.descriptor.dimension).IsPlain := .string _
  apply Json.IsPlain.object (by simp)
  simp [LawfulJsonForm.isPlain, hlevels, hformat, hdimension]

theorem exists_planReport_iff (hread : printJson.IsReadBy readJson) (json : Bool)
    (label : Option String) (usage : TextureUsages) :
    (∃ output, planReport decodePicture printJson path file mipCount json = .ok output) ↔
      ∃ bytes source plan, file = .ok bytes ∧ loadWith decodePicture bytes = .ok source ∧
        UploadPlan.build source ⟨label, mipCount, usage⟩ = .ok plan := by
  have hplanned : (∃ output,
      planReport decodePicture printJson path file mipCount json = .ok output) ↔
        ∃ plan source, planFile decodePicture path file mipCount = .ok (plan, source) := by
    cases json with
    | false => simp [planReport_table_eq_ok_iff]
    | true =>
      simp only [planReport_json_eq_ok_iff]
      constructor
      · rintro ⟨_, plan, source, hplan, _⟩
        exact ⟨plan, source, hplan⟩
      · rintro ⟨plan, source, hplan⟩
        obtain ⟨text, htext, _⟩ := hread _ (isPlain_planJson plan)
        exact ⟨_, plan, source, hplan, text, htext, rfl⟩
  rw [hplanned]
  simp only [planFile_eq_ok_iff]
  constructor
  · intro hreport
    obtain ⟨plan, source, bytes, hfile, hloaded, hplan⟩ := hreport
    obtain ⟨other, hother⟩ := (UploadPlan.exists_build_eq_ok_iff source _ label _ _ usage).mp
      ⟨plan, hplan⟩
    exact ⟨bytes, source, other, hfile, hloaded, hother⟩
  · intro hplanned
    obtain ⟨bytes, source, plan, hfile, hloaded, hplan⟩ := hplanned
    obtain ⟨other, hother⟩ := (UploadPlan.exists_build_eq_ok_iff source label (fileName? path) _
      usage .textureBinding).mp ⟨plan, hplan⟩
    exact ⟨other, source, bytes, hfile, hloaded, hother⟩

private theorem exists_planReport_eq_error_iff (hread : printJson.IsReadBy readJson) {bytes : Bytes}
    {container : Container} (hcontainer : isKtx2 bytes = true)
    (haccepted : Container.decode bytes = .ok container) (json : Bool) :
    (∃ failure, planReport decodePicture printJson path (.ok bytes) mipCount json =
        .error failure) ↔
      ∃ mip expected actual, mip < clampedMipCount container.levelCount mipCount ∧
        container.IsShort mip expected actual := by
  have hloaded : loadWith decodePicture bytes = .ok container.toSource := by
    rw [loadWith, if_pos hcontainer, haccepted]
    rfl
  have hplanned : (∃ output,
      planReport decodePicture printJson path (.ok bytes) mipCount json = .ok output) ↔
      ∃ plan, UploadPlan.build container.toSource ⟨none, mipCount, .textureBinding⟩ = .ok plan := by
    rw [exists_planReport_iff hread json none .textureBinding]
    constructor
    · intro hexists
      obtain ⟨other, source, plan, hother, hsource, hplan⟩ := hexists
      cases hother
      rw [hloaded, Except.ok.injEq] at hsource
      subst hsource
      exact ⟨plan, hplan⟩
    · intro hexists
      obtain ⟨plan, hplan⟩ := hexists
      exact ⟨bytes, _, plan, rfl, hloaded, hplan⟩
  have hdecoded := Container.DecodedFrom.of_decode haccepted
  rw [← hdecoded.exists_build_eq_error_iff ⟨none, mipCount, .textureBinding⟩,
    Outcome.exists_eq_error_iff, Outcome.exists_eq_error_iff, hplanned]

private theorem member?_planJson (plan : UploadPlan) (name : String) :
    (planJson plan).sorted.member? name = ((planJson plan).member? name).map Json.sorted := by
  have hnames : ["format", "dimension", "size", "mip_level_count", "total_bytes",
      "levels"].Nodup := by decide
  apply Json.member?_sorted
  exact hnames

private theorem member?_levelJson (level : PlannedLevel) (name : String) :
    (levelJson level).sorted.member? name = ((levelJson level).member? name).map Json.sorted := by
  have hnames : ["level", "bytes"].Nodup := by decide
  apply Json.member?_sorted
  exact hnames

private theorem sorted_toJson (word : UInt64) : (toJson word).sorted = .integer word.toNat := by
  change Json.sorted (.integer word.toNat) = _
  simp only [Json.sorted]

private theorem read_levelJson (level : PlannedLevel) :
    ((levelJson level).sorted.member? "level" >>= ofJson?) = some (plannedLayout level) ∧
      (level.data.size < 2 ^ 64 →
        (levelJson level).sorted.member? "bytes" = some (.integer level.data.size)) := by
  rw [member?_levelJson, member?_levelJson]
  constructor
  · exact LawfulJsonForm.ofJson?_sorted (plannedLayout level)
  · intro hsmall
    change some (toJson (UInt64.ofNat level.data.size)).sorted = _
    rw [sorted_toJson, UInt64.toNat_ofNat_of_lt' hsmall]

private theorem member?_levels (plan : UploadPlan) : (planJson plan).sorted.member? "levels" =
    some (.array (plan.levels.map fun level => (levelJson level).sorted)) := by
  rw [member?_planJson]
  change some (Json.sorted (.array (plan.levels.map levelJson))) = _
  rw [Json.sorted, List.map_map]
  rfl

private theorem read_mipLevelCount (plan : UploadPlan) :
    ((planJson plan).sorted.member? "mip_level_count" >>= ofJson?) =
      some plan.descriptor.mipLevelCount := by
  rw [member?_planJson]
  exact LawfulJsonForm.ofJson?_sorted plan.descriptor.mipLevelCount

private theorem member?_totalBytes {plan : UploadPlan}
    (hsmall : (plan.levels.map fun level => level.data.size).sum < 2 ^ 64) :
    (planJson plan).sorted.member? "total_bytes" =
      some (.integer ((plan.levels.map fun level => level.data.size).sum : Nat)) := by
  rw [member?_planJson, ← UploadPlan.toNat_totalBytes hsmall]
  exact congrArg some (sorted_toJson plan.totalBytes)

private theorem numbered_of_build {source : TextureSource} {options : UploadOptions}
    {plan : UploadPlan} (hplan : UploadPlan.build source options = .ok plan) :
    plan.descriptor.mipLevelCount.toNat = plan.levels.length ∧
      ∀ mip (hmip : mip < plan.levels.length), plannedLayout plan.levels[mip] =
        ⟨.ofNat mip, plan.levels[mip].layout, plan.levels[mip].extent⟩ := by
  obtain ⟨hdescriptor, hlength, hlevels⟩ := UploadPlan.build_eq_ok_iff.mp hplan
  constructor
  · rw [hlength, hdescriptor]
    rfl
  · intro mip hmip
    rw [plannedLayout, PlannedLevel.mip_of_ofSource (hlevels mip hmip)]

/-- A printed plan is read back: its levels in order, how many they are, and the sum of their
lengths. -/
theorem read_planJson {source : TextureSource} {options : UploadOptions} {plan : UploadPlan}
    (hplan : UploadPlan.build source options = .ok plan) :
    ∃ items, (planJson plan).sorted.member? "levels" = some (.array items) ∧
      items.length = plan.levels.length ∧
      (∀ mip (hitem : mip < items.length) (hlevel : mip < plan.levels.length),
        (items[mip].member? "level" >>= ofJson?) =
          some (⟨.ofNat mip, plan.levels[mip].layout, plan.levels[mip].extent⟩ : LevelLayout) ∧
        (plan.levels[mip].data.size < 2 ^ 64 →
          items[mip].member? "bytes" = some (.integer plan.levels[mip].data.size))) ∧
      ∃ count : UInt32, ((planJson plan).sorted.member? "mip_level_count" >>= ofJson?) = some count ∧
        count.toNat = items.length := by
  obtain ⟨hcount, hnumbered⟩ := numbered_of_build hplan
  refine ⟨_, member?_levels plan, List.length_map _, ?_, _, read_mipLevelCount plan, ?_⟩
  · intro mip hitem hlevel
    obtain ⟨hlayout, hbytes⟩ := read_levelJson plan.levels[mip]
    rw [List.getElem_map, hlayout, hnumbered mip hlevel]
    exact ⟨rfl, hbytes⟩
  · rw [hcount, List.length_map]

/-- The two commands on any file, whatever decodes its pictures, and whatever prints JSON, as long as
plain values can be read back. A report is given exactly when the file can be loaded, and a plan, as a
table or as JSON, exactly when the loaded texture can also be planned with the number of levels asked
for; so a file that has a plan has a report. A container with a report has no plan exactly when one of
the levels asked for is shorter than its layout. A plan printed as JSON is read back: its levels in
order, each with its number, its layout, its extent and the length of its bytes, how many they are,
and the sum of their lengths, as long as a word can count these. -/
theorem commands_agree {printJson : JsonPrinter} {readJson : JsonReader}
    (hread : printJson.IsReadBy readJson) (decodePicture : PictureDecoder)
    (readFile : String → Except FileError Bytes) (path : String) (mipCount : Option UInt32) :
    let info := (Command.info path).run decodePicture printJson readFile
    let plan (json : Bool) := (Command.plan path mipCount json).run decodePicture printJson readFile
    ((∃ report, info = .ok report) ↔
      ∃ bytes source, readFile path = .ok bytes ∧ loadWith decodePicture bytes = .ok source) ∧
    (∀ json label usage, (∃ output, plan json = .ok output) ↔
      ∃ bytes source upload, readFile path = .ok bytes ∧
        loadWith decodePicture bytes = .ok source ∧
        UploadPlan.build source ⟨label, mipCount, usage⟩ = .ok upload) ∧
    (∀ json output, plan json = .ok output → ∃ report, info = .ok report) ∧
    (∀ bytes report, readFile path = .ok bytes → isKtx2 bytes = true → info = .ok report →
      ∃ container, Container.decode bytes = .ok container ∧
        ∀ json, (∃ failure, plan json = .error failure) ↔
          ∃ mip expected actual, mip < clampedMipCount container.levelCount mipCount ∧
            container.IsShort mip expected actual) ∧
    ∀ output, plan true = .ok output → ∃ bytes source upload json items,
      readFile path = .ok bytes ∧ loadWith decodePicture bytes = .ok source ∧
      UploadPlan.build source ⟨fileName? path, mipCount, .textureBinding⟩ = .ok upload ∧
      readJson output = some json ∧
      json.member? "levels" = some (.array items) ∧
      items.length = upload.levels.length ∧
      (∀ mip (hitem : mip < items.length) (hlevel : mip < upload.levels.length),
        (items[mip].member? "level" >>= ofJson?) =
          some (⟨.ofNat mip, upload.levels[mip].layout, upload.levels[mip].extent⟩ : LevelLayout) ∧
        (upload.levels[mip].data.size < 2 ^ 64 →
          items[mip].member? "bytes" = some (.integer upload.levels[mip].data.size))) ∧
      (∃ count : UInt32, (json.member? "mip_level_count" >>= ofJson?) = some count ∧
        count.toNat = items.length) ∧
      ((upload.levels.map fun level => level.data.size).sum < 2 ^ 64 →
        json.member? "total_bytes" =
          some (.integer ((upload.levels.map fun level => level.data.size).sum : Nat))) := by
  intro info plan
  have hinfo : (∃ report, info = .ok report) ↔ ∃ bytes source, readFile path = .ok bytes ∧
      loadWith decodePicture bytes = .ok source := exists_infoReport_iff
  have hplan : ∀ json label usage, (∃ output, plan json = .ok output) ↔
      ∃ bytes source upload, readFile path = .ok bytes ∧
        loadWith decodePicture bytes = .ok source ∧
        UploadPlan.build source ⟨label, mipCount, usage⟩ = .ok upload :=
    exists_planReport_iff hread
  refine ⟨hinfo, hplan, ?_, ?_, ?_⟩
  · intro json output houtput
    obtain ⟨bytes, source, _, hfile, hloaded, _⟩ := (hplan json none .textureBinding).mp ⟨_, houtput⟩
    exact hinfo.mpr ⟨bytes, source, hfile, hloaded⟩
  · intro bytes report hfile hcontainer hreport
    obtain ⟨other, source, hother, hloaded⟩ := hinfo.mp ⟨report, hreport⟩
    rw [hfile, Except.ok.injEq] at hother
    subst hother
    rw [loadWith, if_pos hcontainer, Outcome.mapError_eq_ok_iff, Outcome.map_eq_ok_iff] at hloaded
    obtain ⟨container, haccepted, _⟩ := hloaded
    refine ⟨container, haccepted, fun json => ?_⟩
    change (∃ failure, planReport decodePicture printJson path (readFile path) mipCount json =
      .error failure) ↔ _
    rw [hfile]
    exact exists_planReport_eq_error_iff hread hcontainer haccepted json
  · intro output houtput
    obtain ⟨upload, source, hplanned, text, htext, rfl⟩ := planReport_json_eq_ok_iff.mp houtput
    obtain ⟨bytes, hfile, hloaded, hbuilt⟩ := planFile_eq_ok_iff.mp hplanned
    obtain ⟨other, hother, hback⟩ := hread _ (isPlain_planJson upload)
    rw [htext, Except.ok.injEq] at hother
    subst hother
    obtain ⟨items, hitems, hlength, hlevels, hcount⟩ := read_planJson hbuilt
    exact ⟨bytes, source, upload, _, items, hfile, hloaded, hbuilt, hback, hitems, hlength, hlevels,
      hcount, member?_totalBytes⟩

/-- Two levels of two texels and of one are planned and read back from the printed plan. A texel
whose payload is empty has a report and no plan. -/
theorem commands_agree_gray :
    let print : JsonPrinter := fun json => .ok json.pretty
    let file (draft : Draft) (_ : String) : Except FileError Bytes := .ok draft.write
    print.IsReadBy Json.ofText? ∧
    (∃ output json items,
      (Command.plan "pair" none true).run RgbaImage.decode print (file (.twoTexels .smallestFirst)) =
        .ok output ∧
      Json.ofText? output = some json ∧ json.member? "levels" = some (.array items) ∧
      items.length = 2 ∧ json.member? "total_bytes" = some (.integer 3)) ∧
    (∃ report, (Command.info "texel").run RgbaImage.decode print (file (.grayTexel .empty)) =
      .ok report) ∧
    ∃ failure, (Command.plan "texel" none false).run RgbaImage.decode print
      (file (.grayTexel .empty)) = .error failure := by
  intro print file
  refine ⟨Json.isReadBy_ofText?, ?_, ?_⟩
  · obtain ⟨_, hplan, _, _, hjson⟩ := commands_agree Json.isReadBy_ofText? RgbaImage.decode
      (file (.twoTexels .smallestFirst)) "pair" none
    have hevaluated : (loadWith RgbaImage.decode (Draft.twoTexels .smallestFirst).write).toOption.map
        (fun source => (UploadPlan.build source ⟨fileName? "pair", none, .textureBinding⟩).toOption.map
          fun plan => (plan.levels.length, (plan.levels.map fun level => level.data.size).sum)) =
        some (some (2, 3)) := by
      decide +kernel
    obtain ⟨source, hloaded, hshown⟩ := Outcome.exists_ok_of_toOption_map hevaluated
    obtain ⟨upload, hbuilt, hsizes⟩ := Outcome.exists_ok_of_toOption_map hshown
    obtain ⟨hlength, hsum⟩ := Prod.mk.inj hsizes
    obtain ⟨output, houtput⟩ :=
      (hplan true (fileName? "pair") .textureBinding).mpr ⟨_, source, upload, rfl, hloaded, hbuilt⟩
    obtain ⟨bytes, other, planned, json, items, hfile, hother, hplanned, hjson, hitems, hcount, _, _,
      htotal⟩ := hjson output houtput
    cases hfile
    rw [hloaded, Except.ok.injEq] at hother
    subst hother
    rw [hbuilt, Except.ok.injEq] at hplanned
    subst hplanned
    rw [hlength] at hcount
    rw [hsum] at htotal
    exact ⟨output, json, items, houtput, hjson, hitems, hcount, htotal (by decide)⟩
  · obtain ⟨hinfo, _, _, hgap, _⟩ := commands_agree Json.isReadBy_ofText? RgbaImage.decode
      (file (.grayTexel .empty)) "texel" none
    have hevaluated : (Container.decode (Draft.grayTexel .empty).write).toOption.map (fun container =>
        (container.levelCount, container.level 0, container.levelLayout 0)) =
          some (1, .ok ⟨104, 0, 0⟩, .ok ⟨0, ⟨0, 1, 1⟩, ⟨1, 1, 1⟩⟩) := by
      decide +kernel
    obtain ⟨container, haccepted, hshown⟩ := Outcome.exists_ok_of_toOption_map hevaluated
    obtain ⟨hcount, hentry, hlayout⟩ := by simpa only [Prod.mk.injEq] using hshown
    have hcontainer : isKtx2 (Draft.grayTexel .empty).write = true := by decide +kernel
    have hloaded : loadWith RgbaImage.decode (Draft.grayTexel .empty).write =
        .ok container.toSource := by
      rw [loadWith, if_pos hcontainer, haccepted]
      rfl
    obtain ⟨report, hreport⟩ := hinfo.mpr ⟨_, _, rfl, hloaded⟩
    refine ⟨⟨report, hreport⟩, ?_⟩
    obtain ⟨other, hother, hfails⟩ := hgap _ report rfl hcontainer hreport
    rw [haccepted, Except.ok.injEq] at hother
    subst hother
    refine (hfails false).mpr ⟨0, 1, 0, ?_, _, _, hentry, hlayout, rfl, rfl, by decide⟩
    rw [hcount]
    decide

end Cli

end GpuTexture
