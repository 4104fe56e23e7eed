import Mathlib
import GpuTexture.Proofs.UploadTrace
import GpuTexture.Upload.Native

/-!
# What a native device is told

The native interface receives the calls that a recording device would log, one for one and in the
same order, in its own vocabulary. The change of vocabulary loses the usage bits that the interface
does not define and nothing else: formats keep their identity, and two uploads that cannot be told
apart by their native calls differ at most in such bits.
-/

namespace GpuTexture

private theorem NativeFormat.text_ofFormat_injective : Function.Injective (text ∘ ofFormat) := by
  have hdistinct : (TextureFormat.all.map (text ∘ ofFormat)).Nodup := by
    decide +kernel
  intro format other hsame
  exact List.inj_on_of_nodup_map hdistinct (TextureFormat.mem_all format)
    (TextureFormat.mem_all other) hsame

theorem NativeFormat.ofFormat_injective : Function.Injective ofFormat :=
  text_ofFormat_injective.of_comp

/-- The name of a native format in one word, with the sides of its block behind the family. -/
def NativeFormat.word : NativeFormat → String
  | .astc block channel => "Astc" ++ String.ofList (block.text.toList.drop 1) ++ channel.text
  | format => format.text

private theorem NativeFormat.word_ofFormat (format : TextureFormat) :
    (ofFormat format).word = format.name := by
  have hwords : ∀ format ∈ TextureFormat.all, (ofFormat format).word = format.name := by
    decide +kernel
  exact hwords format (TextureFormat.mem_all format)

private theorem text_ofDimension (dimension : TextureDimension) :
    (NativeDimension.ofDimension dimension).text = dimension.name := by
  cases dimension <;> rfl

private theorem text_ofAspect (aspect : TextureAspect) :
    (NativeAspect.ofAspect aspect).text = aspect.name := by
  cases aspect <;> rfl

private theorem ofDimension_injective : Function.Injective NativeDimension.ofDimension := by
  intro dimension other hsame
  cases dimension <;> cases other <;> simp_all [NativeDimension.ofDimension]

private theorem ofAspect_injective : Function.Injective NativeAspect.ofAspect := by
  intro aspect other hsame
  cases aspect <;> cases other <;> simp_all [NativeAspect.ofAspect]

/-- The native call that stands for a recorded one, field by field. -/
def DeviceCall.toNative (definedBits : UInt32) : DeviceCall → NativeCall
  | .createTexture id descriptor => .createTexture id.index
      { label := descriptor.label
        size := ⟨descriptor.size.width, descriptor.size.height, descriptor.size.depthOrArrayLayers⟩
        mipLevelCount := descriptor.mipLevelCount
        sampleCount := descriptor.sampleCount
        dimension := .ofDimension descriptor.dimension
        format := .ofFormat descriptor.format
        usage := descriptor.usage.bits &&& definedBits
        viewFormats := descriptor.viewFormats.map .ofFormat }
  | .writeTexture write => .writeTexture write.texture.index write.mipLevel
      ⟨write.origin.x, write.origin.y, write.origin.z⟩ (.ofAspect write.aspect) write.data
      { offset := write.layout.offset
        bytesPerRow := some write.layout.bytesPerRow
        rowsPerImage := some write.layout.rowsPerImage }
      ⟨write.size.width, write.size.height, write.size.depthOrArrayLayers⟩

/-- A call without the usage bits that the native interface does not define. -/
def DeviceCall.truncateUsage (definedBits : UInt32) : DeviceCall → DeviceCall
  | .createTexture id descriptor =>
    .createTexture id { descriptor with usage := ⟨descriptor.usage.bits &&& definedBits⟩ }
  | .writeTexture write => .writeTexture write

variable {definedBits : UInt32}

theorem DeviceCall.toNative_eq_iff {call other : DeviceCall} :
    call.toNative definedBits = other.toNative definedBits ↔
      call.truncateUsage definedBits = other.truncateUsage definedBits := by
  have hformats := List.map_injective_iff.mpr NativeFormat.ofFormat_injective
  cases call with
  | createTexture id descriptor =>
    cases other with
    | createTexture otherId otherDescriptor =>
      obtain ⟨index⟩ := id
      obtain ⟨otherIndex⟩ := otherId
      obtain ⟨_, ⟨_⟩, _, ⟨_, _, _⟩, _, _, _, _⟩ := descriptor
      obtain ⟨_, ⟨_⟩, _, ⟨_, _, _⟩, _, _, _, _⟩ := otherDescriptor
      simp only [toNative, truncateUsage, NativeCall.createTexture.injEq, NativeDescriptor.mk.injEq,
        createTexture.injEq, TextureDescriptor.mk.injEq, TextureId.mk.injEq,
        TextureUsages.mk.injEq, NativeFormat.ofFormat_injective.eq_iff, hformats.eq_iff,
        ofDimension_injective.eq_iff, NativeExtent.mk.injEq, Extent.mk.injEq]
      tauto
    | writeTexture write => simp [toNative, truncateUsage]
  | writeTexture write =>
    cases other with
    | createTexture otherId otherDescriptor => simp [toNative, truncateUsage]
    | writeTexture otherWrite =>
      obtain ⟨⟨_⟩, _, ⟨_, _, _⟩, _, _, ⟨_, _, _⟩, ⟨_, _, _⟩⟩ := write
      obtain ⟨⟨_⟩, _, ⟨_, _, _⟩, _, _, ⟨_, _, _⟩, ⟨_, _, _⟩⟩ := otherWrite
      simp [toNative, truncateUsage, ofAspect_injective.eq_iff]

private theorem map_toNative_eq_iff {calls others : List DeviceCall} :
    calls.map (DeviceCall.toNative definedBits) = others.map (DeviceCall.toNative definedBits) ↔
      calls.map (DeviceCall.truncateUsage definedBits) =
        others.map (DeviceCall.truncateUsage definedBits) := by
  simp only [← List.forall₂_eq_eq_eq, List.forall₂_map_left_iff, List.forall₂_map_right_iff,
    DeviceCall.toNative_eq_iff]

def submitAll {device handle : Type} [GpuDevice device handle] :
    List UploadPlan → device → List handle × device
  | [], state => ([], state)
  | plan :: rest, state =>
    let (texture, next) := plan.submit state
    let (textures, last) := submitAll rest next
    (texture :: textures, last)

private theorem length_submitAll {device handle : Type} [GpuDevice device handle]
    (plans : List UploadPlan) (state : device) :
    (submitAll plans state).1.length = plans.length := by
  induction plans generalizing state with
  | nil => rfl
  | cons plan rest ih => exact congrArg Nat.succ (ih _)

/-- A native device that defines the given usage bits and has received what a recording device has
logged. -/
structure NativeDevice.Shows (definedBits : UInt32) (native : NativeDevice) (recorder : Recorder) :
    Prop where
  definedBits_eq : native.definedBits = definedBits
  calls_eq : native.calls = recorder.calls.map (DeviceCall.toNative definedBits)
  nextId_eq : native.nextId = recorder.nextId.index

namespace NativeDevice.Shows

variable {native : NativeDevice} {recorder : Recorder}

theorem fresh (definedBits : UInt32) :
    (NativeDevice.fresh definedBits).Shows definedBits Recorder.fresh :=
  ⟨rfl, rfl, rfl⟩

theorem createTexture (hshows : native.Shows definedBits recorder)
    (descriptor : TextureDescriptor) :
    (GpuDevice.createTexture descriptor native).2.Shows definedBits
      (GpuDevice.createTexture descriptor recorder).2 where
  definedBits_eq := hshows.definedBits_eq
  calls_eq := by
    rw [calls_createTexture, Recorder.calls_createTexture, List.map_append, hshows.calls_eq,
      hshows.nextId_eq, hshows.definedBits_eq]
    rfl
  nextId_eq := congrArg (· + 1) hshows.nextId_eq

theorem writeTexture (hshows : native.Shows definedBits recorder) (texture : TextureId)
    (level : PlannedLevel) :
    (GpuDevice.writeTexture (UploadPlan.levelWrite texture.index level) native).Shows definedBits
      (GpuDevice.writeTexture (UploadPlan.levelWrite texture level) recorder) where
  definedBits_eq := hshows.definedBits_eq
  calls_eq := by
    rw [calls_writeTexture, Recorder.calls_writeTexture, List.map_append, hshows.calls_eq]
    rfl
  nextId_eq := hshows.nextId_eq

theorem foldl_writeTexture (hshows : native.Shows definedBits recorder) (texture : TextureId)
    (levels : List PlannedLevel) :
    (levels.foldl (fun state level => GpuDevice.writeTexture
        (UploadPlan.levelWrite texture.index level) state) native).Shows definedBits
      (levels.foldl (fun state level =>
        GpuDevice.writeTexture (UploadPlan.levelWrite texture level) state) recorder) := by
  induction levels generalizing native recorder with
  | nil => exact hshows
  | cons level rest ih => exact ih (hshows.writeTexture texture level)

theorem submit (hshows : native.Shows definedBits recorder) (plan : UploadPlan) :
    (plan.submit native).1 = (plan.submit recorder).1.index ∧
      (plan.submit native).2.Shows definedBits (plan.submit recorder).2 := by
  refine ⟨hshows.nextId_eq, ?_⟩
  have hwritten := (hshows.createTexture plan.descriptor).foldl_writeTexture recorder.nextId plan.levels
  rw [← hshows.nextId_eq] at hwritten
  exact hwritten

theorem submitAll (hshows : native.Shows definedBits recorder) (plans : List UploadPlan) :
    (submitAll plans native).1 = (submitAll plans recorder).1.map TextureId.index ∧
      (submitAll plans native).2.Shows definedBits (submitAll plans recorder).2 := by
  induction plans generalizing native recorder with
  | nil => exact ⟨rfl, hshows⟩
  | cons plan rest ih =>
    obtain ⟨htexture, hnext⟩ := hshows.submit plan
    obtain ⟨htextures, hlast⟩ := ih hnext
    refine ⟨?_, hlast⟩
    exact congrArg₂ List.cons htexture htextures

end NativeDevice.Shows

theorem Recorder.calls_submitAll (plans : List UploadPlan) (recorder : Recorder) :
    (submitAll plans recorder).2.calls = recorder.calls ++
      (List.zipWith UploadPlan.calls plans (submitAll plans recorder).1).flatten := by
  induction plans generalizing recorder with
  | nil => exact (List.append_nil _).symm
  | cons plan rest ih =>
    obtain ⟨htexture, hcalls, _⟩ := submit_eq plan recorder
    have hrest := ih (plan.submit recorder).2
    rw [hcalls, List.append_assoc, ← htexture] at hrest
    exact hrest

private theorem map_truncateUsage_calls {plan : UploadPlan}
    (hdefined : plan.descriptor.usage.bits &&& definedBits = plan.descriptor.usage.bits)
    (texture : TextureId) :
    (plan.calls texture).map (DeviceCall.truncateUsage definedBits) = plan.calls texture := by
  have husage : (⟨plan.descriptor.usage.bits &&& definedBits⟩ : TextureUsages) =
      plan.descriptor.usage := congrArg TextureUsages.mk hdefined
  simp [UploadPlan.calls, DeviceCall.truncateUsage, husage, Function.comp_def]

private theorem map_truncateUsage_calls_submitAll {plans : List UploadPlan}
    (hdefined : ∀ plan ∈ plans,
      plan.descriptor.usage.bits &&& definedBits = plan.descriptor.usage.bits) :
    (submitAll plans Recorder.fresh).2.calls.map (DeviceCall.truncateUsage definedBits) =
      (submitAll plans Recorder.fresh).2.calls := by
  rw [Recorder.calls_submitAll, Recorder.calls_fresh, List.nil_append]
  generalize (submitAll plans Recorder.fresh).1 = textures
  induction plans generalizing textures with
  | nil => rfl
  | cons plan rest ih =>
    obtain ⟨hplan, hrest⟩ := List.forall_mem_cons.mp hdefined
    cases textures with
    | nil => rfl
    | cons texture textures =>
      rw [List.zipWith_cons_cons, List.flatten_cons, List.map_append,
        map_truncateUsage_calls hplan, ih hrest]

/-- What a native device receives for plans that are submitted one after the other is the image of
what a recording device logs, call by call, whichever usage bits the native interface defines; the
textures it hands out are those of the log, and every plan is written to the texture that was created
for it. Two lists of plans are received alike exactly when their logs differ in undefined usage bits
at most, and so never when all their usages are defined and their logs differ. Formats,
dimensions and aspects are received under their own names, and formats stay apart also as they are
printed. -/
theorem calls_submitAll_native (definedBits : UInt32) (plans : List UploadPlan) :
    let logged := submitAll plans Recorder.fresh
    let received := submitAll plans (NativeDevice.fresh definedBits)
    received.2.calls = logged.2.calls.map (DeviceCall.toNative definedBits) ∧
      received.1 = logged.1.map TextureId.index ∧
      logged.1.length = plans.length ∧
      logged.2.calls = (List.zipWith UploadPlan.calls plans logged.1).flatten ∧
      (∀ others, (submitAll others (NativeDevice.fresh definedBits)).2.calls = received.2.calls ↔
        (submitAll others Recorder.fresh).2.calls.map (DeviceCall.truncateUsage definedBits) =
          logged.2.calls.map (DeviceCall.truncateUsage definedBits)) ∧
      (∀ others, (∀ plan ∈ plans ++ others,
          plan.descriptor.usage.bits &&& definedBits = plan.descriptor.usage.bits) →
        (submitAll others (NativeDevice.fresh definedBits)).2.calls = received.2.calls →
        (submitAll others Recorder.fresh).2.calls = logged.2.calls) ∧
      (∀ format, (NativeFormat.ofFormat format).word = format.name) ∧
      (∀ dimension, (NativeDimension.ofDimension dimension).text = dimension.name) ∧
      (∀ aspect, (NativeAspect.ofAspect aspect).text = aspect.name) ∧
      Function.Injective NativeFormat.ofFormat ∧
      Function.Injective (NativeFormat.text ∘ NativeFormat.ofFormat) := by
  intro logged received
  have himage : ∀ plans : List UploadPlan,
      (submitAll plans (NativeDevice.fresh definedBits)).2.calls =
        (submitAll plans Recorder.fresh).2.calls.map (DeviceCall.toNative definedBits) :=
    fun plans => ((NativeDevice.Shows.fresh definedBits).submitAll plans).2.calls_eq
  have hsame : ∀ others,
      (submitAll others (NativeDevice.fresh definedBits)).2.calls = received.2.calls ↔
        (submitAll others Recorder.fresh).2.calls.map (DeviceCall.truncateUsage definedBits) =
          logged.2.calls.map (DeviceCall.truncateUsage definedBits) := by
    intro others
    rw [himage others, himage plans]
    exact map_toNative_eq_iff
  refine ⟨himage plans, ((NativeDevice.Shows.fresh definedBits).submitAll plans).1,
    length_submitAll _ _, Recorder.calls_submitAll plans Recorder.fresh, hsame, ?_,
    NativeFormat.word_ofFormat, text_ofDimension, text_ofAspect, NativeFormat.ofFormat_injective,
    NativeFormat.text_ofFormat_injective⟩
  intro others hdefined hreceived
  have hmapped := (hsame others).mp hreceived
  rw [map_truncateUsage_calls_submitAll fun plan hplan =>
      hdefined plan (List.mem_append_right _ hplan),
    map_truncateUsage_calls_submitAll fun plan hplan =>
      hdefined plan (List.mem_append_left _ hplan)] at hmapped
  exact hmapped

def UploadPlan.grayPair (usage : UInt32) : UploadPlan where
  descriptor := ⟨some "gray", ⟨usage⟩, .d2, ⟨2, 1, 1⟩, .r8Unorm, 2, 1, [.r8Unorm]⟩
  levels := [⟨0, ⟨#[7, 9]⟩, ⟨0, 2, 1⟩, ⟨2, 1, 1⟩⟩, ⟨1, ⟨#[8]⟩, ⟨0, 1, 1⟩, ⟨1, 1, 1⟩⟩]

/-- Of an interface that defines the bits of 0x3001F: the bit 0x80000000 is lost, the bit 0x10000 is
not. -/
theorem calls_submitAll_native_grayPairs :
    let plans : List UploadPlan := [.grayPair 0x6, .grayPair 0x6]
    let copies : List UploadPlan := List.replicate 2 (.grayPair 0x6)
    let undefined : List UploadPlan := [.grayPair 0x80000006, .grayPair 0x6]
    let other : List UploadPlan := [.grayPair 0x10006, .grayPair 0x6]
    let device := NativeDevice.fresh 0x3001F
    (submitAll plans device).2.calls =
        (submitAll plans Recorder.fresh).2.calls.map (DeviceCall.toNative 0x3001F) ∧
      (submitAll copies Recorder.fresh).2.calls = (submitAll plans Recorder.fresh).2.calls ∧
      (submitAll undefined device).2.calls = (submitAll plans device).2.calls ∧
      (submitAll undefined Recorder.fresh).2.calls ≠ (submitAll plans Recorder.fresh).2.calls ∧
      (submitAll other device).2.calls ≠ (submitAll plans device).2.calls := by
  intro plans copies undefined other device
  obtain ⟨himage, _, _, _, hsame, hdefined, _⟩ := calls_submitAll_native 0x3001F plans
  refine ⟨himage, hdefined copies (by decide +kernel) rfl, (hsame undefined).mpr (by decide +kernel),
    by decide +kernel, fun hreceived => ?_⟩
  have hlogged := hdefined other (by decide +kernel) hreceived
  revert hlogged
  decide +kernel

end GpuTexture
