import GpuTexture.Upload.Device

/-!
# A device that records its calls

Textures are numbered in the order of their creation. Draining the log forgets the calls, never the
number of the next texture.
-/

namespace GpuTexture

structure TextureId where
  index : UInt32
deriving DecidableEq, Repr

inductive DeviceCall where
  | createTexture (id : TextureId) (descriptor : TextureDescriptor)
  | writeTexture (write : TextureWrite TextureId)
deriving DecidableEq

def DeviceCall.isWrite : DeviceCall → Bool
  | .createTexture _ _ => false
  | .writeTexture _ => true

/-- A recording device: the calls since its log was last drained, the newest first, and the next
texture. -/
structure Recorder where
  log : List DeviceCall
  nextId : TextureId
deriving DecidableEq

namespace Recorder

def fresh : Recorder :=
  ⟨[], ⟨0⟩⟩

def calls (recorder : Recorder) : List DeviceCall :=
  recorder.log.reverse

instance : GpuDevice Recorder TextureId where
  createTexture descriptor recorder :=
    (recorder.nextId, ⟨.createTexture recorder.nextId descriptor :: recorder.log,
      ⟨recorder.nextId.index + 1⟩⟩)
  writeTexture write recorder :=
    ⟨.writeTexture write :: recorder.log, recorder.nextId⟩

def takeCalls (recorder : Recorder) : List DeviceCall × Recorder :=
  (recorder.calls, ⟨[], recorder.nextId⟩)

def writes (recorder : Recorder) : List DeviceCall :=
  recorder.calls.filter DeviceCall.isWrite

@[simp] theorem calls_fresh : fresh.calls = [] := rfl

theorem calls_createTexture (descriptor : TextureDescriptor) (recorder : Recorder) :
    (GpuDevice.createTexture descriptor recorder).2.calls =
      recorder.calls ++ [.createTexture recorder.nextId descriptor] :=
  List.reverse_cons

theorem calls_writeTexture (write : TextureWrite TextureId) (recorder : Recorder) :
    (GpuDevice.writeTexture write recorder).calls =
      recorder.calls ++ [.writeTexture write] :=
  List.reverse_cons

end Recorder

end GpuTexture
