import Mathlib
import GpuTexture.Proofs.UploadTrace
import GpuTexture.Upload.Session

/-!
# The history of a session

Whatever steps a session runs, no call to a recording device is lost: the lists that were taken from
it, followed by what it still holds, are the calls that were issued to it, in their order. Textures
are numbered by these calls, so taking a list away never brings a number back. A step that looks, is
refused, or names another device leaves the device as it is.
-/

namespace GpuTexture

def DeviceCall.created? : DeviceCall → Option TextureId
  | .createTexture id _ => some id
  | .writeTexture _ => none

def createdTextures (calls : List DeviceCall) : List TextureId :=
  calls.filterMap DeviceCall.created?

private theorem createdTextures_append (calls others : List DeviceCall) :
    createdTextures (calls ++ others) = createdTextures calls ++ createdTextures others :=
  List.filterMap_append

private theorem UploadPlan.createdTextures_calls (plan : UploadPlan) (texture : TextureId) :
    createdTextures (plan.calls texture) = [texture] := by
  have hwrites : createdTextures (plan.levels.map fun level =>
      .writeTexture (levelWrite texture level)) = [] := by
    simp [createdTextures, DeviceCall.created?]
  exact congrArg (List.cons texture) hwrites

namespace Recorder

/-- One recording device has become another: `calls` were issued to it, and `given` were taken
away. -/
structure Grows (recorder after : Recorder) (given calls : List DeviceCall) : Prop where
  calls_eq : given ++ after.calls = recorder.calls ++ calls
  nextId_eq : after.nextId = ⟨recorder.nextId.index + .ofNat (createdTextures calls).length⟩

namespace Grows

theorem refl (recorder : Recorder) : recorder.Grows recorder [] [] := by
  constructor
  · exact (List.append_nil _).symm
  · exact congrArg TextureId.mk (UInt32.add_zero _).symm

theorem trans {recorder middle after : Recorder} {given later calls further : List DeviceCall}
    (hfirst : recorder.Grows middle given calls) (hsecond : middle.Grows after later further) :
    recorder.Grows after (given ++ later) (calls ++ further) := by
  constructor
  · rw [List.append_assoc, hsecond.calls_eq, ← List.append_assoc, hfirst.calls_eq,
      List.append_assoc]
  · rw [hsecond.nextId_eq, hfirst.nextId_eq, createdTextures_append, List.length_append,
      UInt32.ofNat_add, UInt32.add_assoc]

theorem takeCalls (recorder : Recorder) :
    recorder.Grows recorder.takeCalls.2 recorder.takeCalls.1 [] := by
  constructor
  · rfl
  · exact congrArg TextureId.mk (UInt32.add_zero _).symm

theorem writeTexture (recorder : Recorder) (write : TextureWrite TextureId) :
    recorder.Grows (GpuDevice.writeTexture write recorder) [] [.writeTexture write] := by
  constructor
  · exact calls_writeTexture write recorder
  · exact congrArg TextureId.mk (UInt32.add_zero _).symm

theorem createTexture (recorder : Recorder) (descriptor : TextureDescriptor) :
    recorder.Grows (GpuDevice.createTexture descriptor recorder).2 []
      [.createTexture recorder.nextId descriptor] := by
  constructor
  · exact calls_createTexture descriptor recorder
  · rfl

theorem submit (recorder : Recorder) (plan : UploadPlan) :
    recorder.Grows (plan.submit recorder).2 [] (plan.calls recorder.nextId) := by
  obtain ⟨_, hcalls, hnext⟩ := submit_eq plan recorder
  constructor
  · exact hcalls
  · rw [hnext, UploadPlan.createdTextures_calls]
    rfl

end Grows

end Recorder

namespace Session

def Step.device? : Step → Option Nat
  | .describe _ | .plan _ _ => none
  | .submit _ device | .uploadAll _ _ device | .uploadWith _ _ device | .create _ device
  | .write _ device | .calls device | .takeCalls device | .writes device => some device

/-- The plan that a step submits, if it has one to submit. -/
def State.submitted? (state : State) : Step → Option UploadPlan
  | .submit plan _ => state.plans[plan]?
  | .uploadAll source usage _ => (state.source? source).bind fun source =>
    (UploadPlan.build source (.ofUsage usage)).toOption
  | .uploadWith source options _ => (state.source? source).bind fun source =>
    (UploadPlan.build source options).toOption
  | _ => none

/-- The calls that a step issues to the device it names, where `next` is the texture that is created
next. -/
def State.issued (state : State) (next : TextureId) : Step → List DeviceCall
  | .create descriptor _ => [.createTexture next descriptor]
  | .write write _ => [.writeTexture write]
  | request => ((state.submitted? request).map fun plan => plan.calls next).getD []

def State.issuedTo (state : State) (index : Nat) (next : TextureId) (request : Step) :
    List DeviceCall :=
  if request.device? = some index then state.issued next request else []

/-- The calls that steps issue to the device at `index`, in order. Textures are numbered in the order
of their creation, from `created` on. -/
def issuedTo (index : Nat) : State → Nat → List Step → List DeviceCall
  | _, _, [] => []
  | state, created, next :: rest =>
    let calls := state.issuedTo index ⟨.ofNat created⟩ next
    calls ++ issuedTo index (step state next).2 (created + (createdTextures calls).length) rest

/-- The calls that a step takes away from the device at `index`, as its answer hands them out. -/
def takenBy (index : Nat) : Step → Answer → List DeviceCall
  | .takeCalls device, .calls calls => if device = index then calls else []
  | _, _ => []

def taken (index : Nat) (steps : List Step) (answers : List Answer) : List DeviceCall :=
  (List.zipWith (takenBy index) steps answers).flatten

variable {state : State} {recorder : Recorder} {index : Nat}

namespace State

private theorem onDevice_of_some (hdevice : state.devices[index]? = some recorder)
    (action : Recorder → Answer × Recorder) :
    state.onDevice index action =
      ((action recorder).1, state.setDevice index (action recorder).2) := by
  rw [onDevice, hdevice]

private theorem getElem?_devices_setDevice (hdevice : state.devices[index]? = some recorder)
    (after : Recorder) : (state.setDevice index after).devices[index]? = some after := by
  obtain ⟨hindex, _⟩ := List.getElem?_eq_some_iff.mp hdevice
  exact List.getElem?_set_self hindex

private theorem setDevice_self (hdevice : state.devices[index]? = some recorder) :
    state.setDevice index recorder = state := by
  obtain ⟨hindex, rfl⟩ := List.getElem?_eq_some_iff.mp hdevice
  rw [setDevice, List.set_getElem_self]

private theorem getElem?_devices_onDevice_of_ne {device : Nat} (hother : device ≠ index)
    (state : State) (action : Recorder → Answer × Recorder) :
    (state.onDevice device action).2.devices[index]? = state.devices[index]? := by
  unfold onDevice
  split
  · exact List.getElem?_set_ne hother
  · rfl

private theorem exists_refused_of_onDevice {action : Recorder → Answer × Recorder}
    {error : UploadError} (hrefused : (state.onDevice index action).1 = .refused error) :
    ∃ recorder, (action recorder).1 = .refused error := by
  unfold onDevice at hrefused
  split at hrefused
  · exact ⟨_, hrefused⟩
  · cases hrefused

end State

private theorem getElem?_devices_step_of_ne {next : Step} (hother : next.device? ≠ some index)
    (state : State) : (step state next).2.devices[index]? = state.devices[index]? := by
  have hdevice : ∀ device, next.device? = some device → device ≠ index := by
    intro device hnamed heq
    rw [hnamed, heq] at hother
    exact hother rfl
  cases next with
  | describe source =>
    cases hsource : state.source? source <;> simp only [step, hsource]
  | plan source options =>
    cases hsource : state.source? source with
    | none => simp only [step, hsource]
    | some source =>
      cases hplan : UploadPlan.build source options <;> simp only [step, hsource, hplan]
  | submit plan device =>
    cases hplan : state.plans[plan]? with
    | none => simp only [step, hplan]
    | some plan =>
      simp only [step, hplan]
      exact State.getElem?_devices_onDevice_of_ne (hdevice device rfl) state _
  | uploadAll source _ device | uploadWith source _ device =>
    cases hsource : state.source? source with
    | none => simp only [step, hsource]
    | some source =>
      simp only [step, hsource]
      exact State.getElem?_devices_onDevice_of_ne (hdevice device rfl) state _
  | create _ device | write _ device | calls device | takeCalls device | writes device =>
    exact State.getElem?_devices_onDevice_of_ne (hdevice device rfl) state _

private theorem State.submitted?_uploadWith {plan : UploadPlan} {position device : Nat}
    {options : UploadOptions}
    (hplan : state.submitted? (.uploadWith position options device) = some plan) :
    ∃ source, state.source? position = some source ∧
      UploadPlan.build source options = .ok plan := by
  obtain ⟨source, hsource, hbuilt⟩ := Option.bind_eq_some_iff.mp hplan
  refine ⟨source, hsource, ?_⟩
  cases hbuild : UploadPlan.build source options with
  | ok built =>
    rw [hbuild] at hbuilt
    exact congrArg Except.ok (Option.some.inj hbuilt)
  | error error =>
    rw [hbuild] at hbuilt
    cases hbuilt

private theorem step_uploadWith_of_some {plan : UploadPlan} {position : Nat}
    {options : UploadOptions} (hdevice : state.devices[index]? = some recorder)
    (hplan : state.submitted? (.uploadWith position options index) = some plan) :
    step state (.uploadWith position options index) =
      (.texture (plan.submit recorder).1, state.setDevice index (plan.submit recorder).2) := by
  obtain ⟨source, hsource, hbuild⟩ := State.submitted?_uploadWith hplan
  simp only [step, hsource, State.onDevice_of_some hdevice, uploadWithOptions_of_ok hbuild]
  rfl

private theorem step_of_submitted {next : Step} {plan : UploadPlan}
    (hdevice : state.devices[index]? = some recorder) (hnamed : next.device? = some index)
    (hplan : state.submitted? next = some plan) :
    step state next =
      (.texture (plan.submit recorder).1, state.setDevice index (plan.submit recorder).2) := by
  cases next with
  | submit position device =>
    cases hnamed
    have hposition : state.plans[position]? = some plan := hplan
    simp only [step, hposition, State.onDevice_of_some hdevice]
  | uploadAll position usage device =>
    cases hnamed
    have hwith : state.submitted? (.uploadWith position (.ofUsage usage) index) = some plan := hplan
    exact step_uploadWith_of_some hdevice hwith
  | uploadWith position options device =>
    cases hnamed
    exact step_uploadWith_of_some hdevice hplan
  | describe | plan | create | write | calls | takeCalls | writes => cases hplan

private theorem step_create (hdevice : state.devices[index]? = some recorder)
    (descriptor : TextureDescriptor) : step state (.create descriptor index) =
      (.texture recorder.nextId,
        state.setDevice index (GpuDevice.createTexture descriptor recorder).2) := by
  simp only [step, State.onDevice_of_some hdevice]
  rfl

private theorem step_write (hdevice : state.devices[index]? = some recorder)
    (write : TextureWrite TextureId) : step state (.write write index) =
      (.done, state.setDevice index (GpuDevice.writeTexture write recorder)) := by
  simp only [step, State.onDevice_of_some hdevice]

private theorem step_takeCalls (hdevice : state.devices[index]? = some recorder) :
    step state (.takeCalls index) =
      (.calls recorder.calls, state.setDevice index recorder.takeCalls.2) := by
  simp only [step, State.onDevice_of_some hdevice]
  rfl

private theorem step_calls (hdevice : state.devices[index]? = some recorder) :
    step state (.calls index) = (.calls recorder.calls, state) := by
  have hstep := State.onDevice_of_some hdevice fun recorder => (.calls recorder.calls, recorder)
  rw [State.setDevice_self hdevice] at hstep
  exact hstep

private theorem step_writes (hdevice : state.devices[index]? = some recorder) :
    step state (.writes index) = (.calls recorder.writes, state) := by
  have hstep := State.onDevice_of_some hdevice fun recorder => (.calls recorder.writes, recorder)
  rw [State.setDevice_self hdevice] at hstep
  exact hstep

private theorem snd_step_uploadWith_of_none {position device : Nat} {options : UploadOptions}
    (hplan : state.submitted? (.uploadWith position options device) = none) :
    (step state (.uploadWith position options device)).2 = state := by
  cases hsource : state.source? position with
  | none => simp only [step, hsource]
  | some source =>
    cases hbuild : UploadPlan.build source options with
    | ok plan => simp [State.submitted?, hsource, hbuild, Except.toOption] at hplan
    | error error =>
      simp only [step, hsource, State.onDevice, uploadWithOptions_of_error hbuild]
      split
      · next hdevice => exact State.setDevice_self hdevice
      · rfl

private theorem snd_step_uploadWith_of_refused {position device : Nat} {options : UploadOptions}
    {error : UploadError}
    (hrefused : (step state (.uploadWith position options device)).1 = .refused error) :
    (step state (.uploadWith position options device)).2 = state := by
  cases hplan : state.submitted? (.uploadWith position options device) with
  | none => exact snd_step_uploadWith_of_none hplan
  | some plan =>
    cases hdevice : state.devices[device]? with
    | none =>
      obtain ⟨source, hsource, _⟩ := State.submitted?_uploadWith hplan
      simp only [step, hsource, State.onDevice, hdevice]
    | some recorder =>
      rw [step_uploadWith_of_some hdevice hplan] at hrefused
      cases hrefused

private theorem snd_step_of_refused {next : Step} {error : UploadError}
    (hrefused : (step state next).1 = .refused error) : (step state next).2 = state := by
  cases next with
  | describe source =>
    cases hsource : state.source? source <;> simp only [step, hsource]
  | plan source options =>
    cases hsource : state.source? source with
    | none => simp only [step, hsource]
    | some source =>
      cases hplan : UploadPlan.build source options with
      | error error => simp only [step, hsource, hplan]
      | ok plan => simp [step, hsource, hplan] at hrefused
  | submit plan device =>
    cases hplan : state.plans[plan]? with
    | none => simp only [step, hplan]
    | some plan =>
      simp only [step, hplan] at hrefused
      obtain ⟨recorder, hanswer⟩ := State.exists_refused_of_onDevice hrefused
      cases hanswer
  | uploadAll source usage device =>
    have hwith : (step state (.uploadWith source (.ofUsage usage) device)).1 = .refused error :=
      hrefused
    exact snd_step_uploadWith_of_refused hwith
  | uploadWith source options device => exact snd_step_uploadWith_of_refused hrefused
  | create | write | calls | takeCalls | writes =>
    obtain ⟨recorder, hanswer⟩ := State.exists_refused_of_onDevice hrefused
    cases hanswer

private theorem grows_of_submitted?_eq {next : Step}
    (hdevice : state.devices[index]? = some recorder) (hnamed : next.device? = some index)
    (hidle : state.submitted? next = none → (step state next).2 = state) :
    ∃ after, (step state next).2.devices[index]? = some after ∧ recorder.Grows after []
      (((state.submitted? next).map fun plan => plan.calls recorder.nextId).getD []) := by
  cases hplan : state.submitted? next with
  | none =>
    rw [hidle hplan]
    exact ⟨recorder, hdevice, .refl recorder⟩
  | some plan =>
    rw [step_of_submitted hdevice hnamed hplan]
    exact ⟨_, State.getElem?_devices_setDevice hdevice _, .submit recorder plan⟩

theorem step_grows (hdevice : state.devices[index]? = some recorder) (next : Step) :
    ∃ after, (step state next).2.devices[index]? = some after ∧
      recorder.Grows after (takenBy index next (step state next).1)
        (state.issuedTo index recorder.nextId next) := by
  unfold State.issuedTo
  by_cases hnamed : next.device? = some index
  · rw [if_pos hnamed]
    have hset := State.getElem?_devices_setDevice hdevice
    cases next with
    | describe | plan => cases hnamed
    | submit position device =>
      refine grows_of_submitted?_eq hdevice hnamed fun hplan => ?_
      have hposition : state.plans[position]? = none := hplan
      simp only [step, hposition]
    | uploadAll position usage device =>
      exact grows_of_submitted?_eq hdevice hnamed snd_step_uploadWith_of_none
    | uploadWith position options device =>
      exact grows_of_submitted?_eq hdevice hnamed snd_step_uploadWith_of_none
    | create descriptor device =>
      cases hnamed
      rw [step_create hdevice]
      exact ⟨_, hset _, .createTexture recorder descriptor⟩
    | write write device =>
      cases hnamed
      rw [step_write hdevice]
      exact ⟨_, hset _, .writeTexture recorder write⟩
    | calls device =>
      cases hnamed
      rw [step_calls hdevice]
      exact ⟨_, hdevice, .refl recorder⟩
    | writes device =>
      cases hnamed
      rw [step_writes hdevice]
      exact ⟨_, hdevice, .refl recorder⟩
    | takeCalls device =>
      cases hnamed
      rw [step_takeCalls hdevice, takenBy, if_pos rfl]
      exact ⟨_, hset _, .takeCalls recorder⟩
  · rw [if_neg hnamed, getElem?_devices_step_of_ne hnamed]
    -- Only a step that names the device can take calls from it.
    have hkept : takenBy index next (step state next).1 = [] := by
      unfold takenBy
      split
      · next device calls _ =>
        rw [if_neg]
        intro hsame
        exact hnamed (congrArg some hsame)
      · rfl
    rw [hkept]
    exact ⟨recorder, hdevice, .refl recorder⟩

/-- Over any run, the lists taken from a device followed by the calls it still holds are those it
held before followed by the calls issued to it. -/
theorem run_grows (hdevice : state.devices[index]? = some recorder) {created : Nat}
    (hnext : recorder.nextId = ⟨.ofNat created⟩) (steps : List Step) :
    ∃ after, (run state steps).2.devices[index]? = some after ∧
      recorder.Grows after (taken index steps (run state steps).1)
        (issuedTo index state created steps) := by
  induction steps generalizing state recorder created with
  | nil => exact ⟨recorder, hdevice, .refl recorder⟩
  | cons next rest ih =>
    -- The number of textures so far links the next number of the device to the calls still to come.
    obtain ⟨middle, hmiddle, hgrows⟩ := step_grows hdevice next
    rw [hnext] at hgrows
    have hmiddleNext := hgrows.nextId_eq
    rw [hnext, ← UInt32.ofNat_add] at hmiddleNext
    obtain ⟨after, hafter, hrest⟩ := ih hmiddle hmiddleNext
    exact ⟨after, hafter, hgrows.trans hrest⟩

private theorem State.createdTextures_issuedTo (state : State) (index : Nat) (next : TextureId)
    (request : Step) : createdTextures (state.issuedTo index next request) = [] ∨
      createdTextures (state.issuedTo index next request) = [next] := by
  have hplans : ∀ plan? : Option UploadPlan,
      createdTextures ((plan?.map fun plan => plan.calls next).getD []) = [] ∨
        createdTextures ((plan?.map fun plan => plan.calls next).getD []) = [next] := by
    intro plan?
    cases plan? with
    | none => exact .inl rfl
    | some plan => exact .inr (plan.createdTextures_calls next)
  unfold issuedTo
  split
  · cases request with
    | create => exact .inr rfl
    | submit | uploadAll | uploadWith => exact hplans _
    | describe | plan | write | calls | takeCalls | writes => exact .inl rfl
  · exact .inl rfl

private theorem createdTextures_issuedTo (index : Nat) (state : State) (created : Nat)
    (steps : List Step) :
    createdTextures (issuedTo index state created steps) =
      (List.range' created (createdTextures (issuedTo index state created steps)).length).map
        fun number => ⟨.ofNat number⟩ := by
  induction steps generalizing state created with
  | nil => rfl
  | cons next rest ih =>
    simp only [issuedTo, createdTextures_append]
    cases state.createdTextures_issuedTo index ⟨.ofNat created⟩ next with
    | inl hnone =>
      rw [hnone]
      exact ih _ created
    | inr hone =>
      rw [hone]
      exact congrArg (List.cons _) (ih _ (created + 1))

theorem numbers_of_eq_range {created : List TextureId}
    (hcreated : created = (List.range created.length).map fun number => ⟨.ofNat number⟩)
    (hfew : created.length < 2 ^ 32) :
    created.map (·.index.toNat) = List.range created.length ∧ created.Nodup := by
  have hnumbers : created.map (·.index.toNat) = List.range created.length := by
    conv_lhs => rw [hcreated, List.map_map]
    refine (List.map_congr_left fun number hnumber => ?_).trans (List.map_id _)
    exact UInt32.toNat_ofNat_of_lt ((List.mem_range.mp hnumber).trans hfew)
  have hnodup : (created.map (·.index.toNat)).Nodup := by
    rw [hnumbers]
    exact List.nodup_range
  exact ⟨hnumbers, .of_map _ hnodup⟩

/-- The history of a device over a session from fresh devices: the lists taken from it, then the calls
it holds. It is the calls issued to the device, and its textures have the numbers from zero on.
Looking at the log, a refused step and a step that names another device keep the device as it is,
draining the log keeps the number of the next texture, and a submitted plan writes to the texture
that it creates. -/
theorem history_of_run (sources : List (Option TextureSource)) (plans : List UploadPlan)
    {count : Nat} (hindex : index < count) (steps : List Step) :
    let first := { start sources count with plans := plans }
    let outcome := run first steps
    ∃ recorder, outcome.2.devices[index]? = some recorder ∧
      let history := taken index steps outcome.1 ++ recorder.calls
      let created := createdTextures history
      history = issuedTo index first 0 steps ∧
      (created.length < 2 ^ 32 →
        created.map (·.index.toNat) = List.range created.length ∧ created.Nodup) ∧
      step outcome.2 (.calls index) = (.calls recorder.calls, outcome.2) ∧
      step outcome.2 (.writes index) =
        (.calls (recorder.calls.filter DeviceCall.isWrite), outcome.2) ∧
      step outcome.2 (.takeCalls index) =
        (.calls recorder.calls, outcome.2.setDevice index ⟨[], ⟨.ofNat created.length⟩⟩) ∧
      (∀ next, next.device? ≠ some index →
        (step outcome.2 next).2.devices[index]? = some recorder) ∧
      (∀ next error, (step outcome.2 next).1 = .refused error →
        (step outcome.2 next).2 = outcome.2) ∧
      ∀ next plan, next.device? = some index → outcome.2.submitted? next = some plan →
        ∃ after, step outcome.2 next =
            (.texture ⟨.ofNat created.length⟩, outcome.2.setDevice index after) ∧
          after.calls = recorder.calls ++
            .createTexture ⟨.ofNat created.length⟩ plan.descriptor ::
              plan.levels.map fun level => .writeTexture
                { texture := ⟨.ofNat created.length⟩
                  mipLevel := level.mip
                  origin := .zero
                  aspect := .all
                  data := level.data
                  layout := level.layout
                  size := level.extent } := by
  intro first outcome
  have hfresh : first.devices[index]? = some Recorder.fresh :=
    List.getElem?_replicate_of_lt hindex
  have hzero : Recorder.fresh.nextId = ⟨.ofNat 0⟩ := rfl
  obtain ⟨recorder, hdevice, hgrows⟩ := run_grows hfresh hzero steps
  refine ⟨recorder, hdevice, ?_⟩
  intro history created
  have hhistory : history = issuedTo index first 0 steps := hgrows.calls_eq
  have hcreated : created = (List.range created.length).map fun number => ⟨.ofNat number⟩ := by
    have hissued := createdTextures_issuedTo index first 0 steps
    rw [← hhistory, ← List.range_eq_range'] at hissued
    exact hissued
  have hnext : recorder.nextId = ⟨.ofNat created.length⟩ := by
    rw [hgrows.nextId_eq, ← hhistory]
    exact congrArg TextureId.mk (UInt32.zero_add _)
  refine ⟨hhistory, numbers_of_eq_range hcreated, step_calls hdevice, step_writes hdevice, ?_, ?_,
    ?_, ?_⟩
  · rw [step_takeCalls hdevice, ← hnext]
    rfl
  · intro next hother
    rw [getElem?_devices_step_of_ne hother, hdevice]
  · intro next error hrefused
    exact snd_step_of_refused hrefused
  · intro next plan hnamed hplan
    obtain ⟨_, hcalls, _⟩ := Recorder.submit_eq plan recorder
    rw [step_of_submitted hdevice hnamed hplan, ← hnext]
    exact ⟨_, rfl, hcalls⟩

def graySources : List (Option TextureSource) :=
  [some (LevelTable.grayPair ⟨#[8]⟩).toSource, some (LevelTable.grayPair ⟨#[]⟩).toSource]

/-- Two uploads to one device, with a drained log, an upload to another device and a failed upload in
between. -/
def graySteps : List Step :=
  [.uploadAll 0 .textureBinding 0, .takeCalls 0, .uploadAll 0 .textureBinding 1,
    .uploadAll 1 .textureBinding 0, .uploadAll 0 .textureBinding 0]

theorem history_of_run_graySteps :
    let outcome := run (start graySources 2) graySteps
    0 < 2 ∧ ∃ recorder, outcome.2.devices[0]? = some recorder ∧
      let history := taken 0 graySteps outcome.1 ++ recorder.calls
      history.length = 6 ∧
      (createdTextures history).map (·.index.toNat) = [0, 1] ∧ (createdTextures history).Nodup ∧
      (step outcome.2 (.uploadAll 1 .textureBinding 0)).2 = outcome.2 ∧
      ∃ after, step outcome.2 (.uploadAll 0 .textureBinding 0) =
        (.texture ⟨2⟩, outcome.2.setDevice 0 after) := by
  intro outcome
  obtain ⟨recorder, hdevice, hhistory, hnumbers, _, _, _, _, hrefused, hsubmitted⟩ :=
    history_of_run graySources [] (show 0 < 2 by decide) graySteps
  have hissued : (issuedTo 0 (start graySources 2) 0 graySteps).length = 6 := by
    decide +kernel
  have hcreated : (createdTextures (issuedTo 0 (start graySources 2) 0 graySteps)).length = 2 := by
    decide +kernel
  have hlength := (congrArg List.length hhistory).trans hissued
  have htwo := (congrArg (fun calls => (createdTextures calls).length) hhistory).trans hcreated
  obtain ⟨hrange, hnodup⟩ := hnumbers (htwo.trans_lt (by decide))
  have hfails : (step outcome.2 (.uploadAll 1 .textureBinding 0)).1 =
      .refused (.levelTooShort 1 1 0) := rfl
  have hplanned : (outcome.2.submitted? (.uploadAll 0 .textureBinding 0)).isSome := by
    decide +kernel
  obtain ⟨plan, hplan⟩ := Option.isSome_iff_exists.mp hplanned
  obtain ⟨after, hstep, _⟩ := hsubmitted _ plan rfl hplan
  refine ⟨by decide, recorder, hdevice, hlength, ?_, hnodup, hrefused _ _ hfails, after, ?_⟩
  · exact hrange.trans (congrArg List.range htwo)
  · exact hstep.trans (congrArg (fun number => (Answer.texture ⟨.ofNat number⟩,
      outcome.2.setDevice 0 after)) htwo)

end Session

end GpuTexture
