import GpuTexture.Upload.Plan
import GpuTexture.Upload.Recorder

/-!
# Upload sessions

A session holds sources, recording devices and the plans built so far, and runs one step at a time.
A step that names something that is not there changes nothing.
-/

namespace GpuTexture.Session

/-- The state of a session. A source that could not be read stands as `none`. -/
structure State where
  sources : List (Option TextureSource)
  devices : List Recorder
  plans : List UploadPlan

def start (sources : List (Option TextureSource)) (devices : Nat) : State :=
  ⟨sources, List.replicate devices .fresh, []⟩

/-- One step. Sources, plans and devices are named by their positions. -/
inductive Step where
  | describe (source : Nat)
  | plan (source : Nat) (options : UploadOptions)
  | submit (plan device : Nat)
  | uploadAll (source : Nat) (usage : TextureUsages) (device : Nat)
  | uploadWith (source : Nat) (options : UploadOptions) (device : Nat)
  | create (descriptor : TextureDescriptor) (device : Nat)
  | write (write : TextureWrite TextureId) (device : Nat)
  | calls (device : Nat)
  | takeCalls (device : Nat)
  | writes (device : Nat)

inductive Answer where
  | source (source : TextureSource)
  | planned (index : Nat) (plan : UploadPlan)
  | texture (id : TextureId)
  | refused (error : UploadError)
  | done
  | calls (calls : List DeviceCall)
  | noSource
  | noPlan
  | noDevice

namespace State

def source? (state : State) (index : Nat) : Option TextureSource :=
  (state.sources[index]?).join

def setDevice (state : State) (index : Nat) (device : Recorder) : State :=
  { state with devices := state.devices.set index device }

def onDevice (state : State) (index : Nat) (action : Recorder → Answer × Recorder) :
    Answer × State :=
  match state.devices[index]? with
  | some device =>
    let (answer, next) := action device
    (answer, state.setDevice index next)
  | none => (.noDevice, state)

end State

def Answer.ofUpload : Except UploadError TextureId → Answer
  | .ok id => .texture id
  | .error fault => .refused fault

def step (state : State) : Step → Answer × State
  | .describe source =>
    match state.source? source with
    | some source => (.source source, state)
    | none => (.noSource, state)
  | .plan source options =>
    match state.source? source with
    | some source =>
      match UploadPlan.build source options with
      | .ok plan =>
        (.planned state.plans.length plan, { state with plans := state.plans ++ [plan] })
      | .error error => (.refused error, state)
    | none => (.noSource, state)
  | .submit plan device =>
    match state.plans[plan]? with
    | some plan =>
      state.onDevice device fun recorder =>
        let (texture, next) := plan.submit recorder
        (.texture texture, next)
    | none => (.noPlan, state)
  | .uploadAll source usage device =>
    match state.source? source with
    | some source =>
      state.onDevice device fun recorder =>
        let (result, next) := uploadAllLevels source usage recorder
        (.ofUpload result, next)
    | none => (.noSource, state)
  | .uploadWith source options device =>
    match state.source? source with
    | some source =>
      state.onDevice device fun recorder =>
        let (result, next) := uploadWithOptions source options recorder
        (.ofUpload result, next)
    | none => (.noSource, state)
  | .create descriptor device =>
    state.onDevice device fun recorder =>
      let (texture, next) := GpuDevice.createTexture descriptor recorder
      (.texture texture, next)
  | .write write device =>
    state.onDevice device fun recorder => (.done, GpuDevice.writeTexture write recorder)
  | .calls device =>
    state.onDevice device fun recorder => (.calls recorder.calls, recorder)
  | .takeCalls device =>
    state.onDevice device fun recorder =>
      let (calls, next) := recorder.takeCalls
      (.calls calls, next)
  | .writes device =>
    state.onDevice device fun recorder => (.calls recorder.writes, recorder)

def run : State → List Step → List Answer × State
  | state, [] => ([], state)
  | state, next :: rest =>
    let (answer, state) := step state next
    let (answers, state) := run state rest
    (answer :: answers, state)

end GpuTexture.Session
