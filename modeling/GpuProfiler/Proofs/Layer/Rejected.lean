import GpuProfiler.Proofs.Layer.Run

set_option autoImplicit false

namespace GpuProfiler

inductive Restart where
  | start
  | reset
deriving DecidableEq, Repr

namespace Restart

def call : Restart → BufferId → LayerCall
  | .start => .beginBuffer
  | .reset => .resetBuffer

def made : Restart → RawBuffer → DriverCall
  | .start => .beginCommandBuffer
  | .reset => .resetCommandBuffer

def method : Restart → DriverMethod
  | .start => .beginCommandBuffer
  | .reset => .resetCommandBuffer

def afresh : Restart → Recorder → Recorder
  | .start => Recorder.start
  | .reset => Recorder.reset

theorem afresh_empty (restart : Restart) (recorder : Recorder) : (restart.afresh recorder).stream = [] := by
  cases restart <;> rfl

theorem made_method (restart : Restart) (raw : RawBuffer) : (restart.made raw).method = restart.method := by
  cases restart <;> rfl

theorem performed (restart : Restart) (buffer : BufferId) :
    Layer.perform (restart.call buffer) = do
      return .ofAnswer (fun _ => .done) (← Layer.onDevice buffer.device
        (DeviceScope.updateThenCall buffer.buffer restart.afresh fun raw =>
          Driver.tryCall (restart.made raw) (Act.modify (·.setContents raw [])))) := by
  cases restart <;> rfl

end Restart

namespace Layer

variable {layer next : Layer} {id : DeviceId} {device moved : ProfiledDevice} {handle : BufferHandle}
  {recorder following : Recorder}

theorem recorder_set (here : layer.devices.get? id = some device) (there : next.devices = layer.devices.set id moved)
    (live : device.registry.buffers.get? handle = some recorder)
    (registry : moved.registry = device.registry.setBuffer handle following) (other : BufferId) :
    next.recorder other = if other = ⟨id, handle⟩ then .ok following else layer.recorder other := by
  obtain ⟨owner, target⟩ := other
  by_cases same : owner = id
  · subst same
    have found : next.devices.get? owner = some moved := by rw [there, Arena.get_set_here _ _ _ _ here]
    simp only [Layer.recorder, Layer.device, found, here, registry, Registry.buffer, Registry.get_set_buffer live]
    by_cases also : target = handle
    · rw [if_pos also, if_pos (by rw [also])]
    · rw [if_neg also, if_neg (by simpa using also)]
  · have apart : next.devices.get? owner = layer.devices.get? owner := by
      rw [there, Arena.get_set_elsewhere _ _ _ _ same]
    rw [if_neg (by simp [same])]
    simp only [Layer.recorder, Layer.device, apart]

/-- A begin or a reset that the driver rejects: its error is returned, and the driver and all other
recordings are as they were. The recording of the buffer is not; it has started afresh. So it is as
it was only if there was nothing recorded to lose, and a submission of the buffer by itself is not
replayed, whatever the driver's buffer holds. -/
theorem rejected_restart_forgets (restart : Restart) (layer : Layer) (buffer : BufferId) (device : ProfiledDevice)
    (recorder : Recorder) (error : Error) (live : layer.device buffer.device = .ok device)
    (held : layer.recorder buffer = .ok recorder) (rejected : device.driver.fault? restart.method = some error) :
    ∃ next moved, perform (restart.call buffer) layer =
        ⟨[.call device.driver.name (restart.made recorder.raw) true], .ok (.failed error, next)⟩ ∧
      next.shared = layer.shared ∧ next.device buffer.device = .ok moved ∧
      moved.driver = device.driver.counted restart.method ∧
      (∀ raw, moved.driver.flatten raw = device.driver.flatten raw) ∧
      (∀ other, next.recorder other = if other = buffer then .ok (restart.afresh recorder) else layer.recorder other) ∧
      (next.recorder buffer = layer.recorder buffer ↔ recorder = restart.afresh recorder) ∧
      moved.needsReplay [buffer.buffer] = false := by
  obtain ⟨id, handle⟩ := buffer
  have here := (device_ok layer id device).mp live
  have there := (recorder_within here handle recorder).mp held
  let moved : ProfiledDevice :=
    { device with
      registry := device.registry.setBuffer handle (restart.afresh recorder)
      driver := device.driver.counted restart.method }
  let next : Layer := { layer with devices := layer.devices.set id moved }
  have ends : Act.Ends (perform (restart.call ⟨id, handle⟩)) layer
      (fun shown reply last => shown = [.call device.driver.name (restart.made recorder.raw) true] ∧
        reply = .failed error ∧ last = next) (fun _ _ => False) := by
    have known : (DeviceScope.trackingPart.get ⟨device, layer.shared⟩).registry.buffers.get? handle = some recorder :=
      there
    rw [restart.performed]
    simp only [Act.ends_bind, Act.ends_pure, ends_on_device, here, DeviceScope.updateThenCall, Act.ends_on,
      Tracking.ends_with_buffer, known, Recording.update, Act.ends_modify, Driver.ends_try_call, restart.made_method]
    have refused : (DeviceScope.driverPart.get (DeviceScope.trackingPart.set
        ⟨device.registry.setBuffer handle (restart.afresh recorder), layer.shared.tags⟩ ⟨device, layer.shared⟩)).fault?
          restart.method = some error := rejected
    rw [show (DeviceScope.trackingPart.get ⟨device, layer.shared⟩).registry = device.registry from rfl,
      show (DeviceScope.trackingPart.get ⟨device, layer.shared⟩).tags = layer.shared.tags from rfl, refused]
    refine ⟨?_, rfl, rfl⟩
    simp [Driver.callEvent, restart.made_method, refused]
    rfl
  have devices : next.devices = layer.devices.set id moved := rfl
  have recorders := recorder_set here devices there rfl
  have found : next.devices.get? id = some moved := Arena.get_set_here _ _ _ _ here
  refine ⟨next, moved, ?_, rfl, (device_ok next id moved).mpr found, rfl, ?_, recorders, ?_, ?_⟩
  · rcases ran : perform (restart.call ⟨id, handle⟩) layer with ⟨shown, reason | ⟨reply, last⟩⟩
    · exact (Act.ends_of_error ends ran).elim
    · obtain ⟨rfl, rfl, rfl⟩ := Act.ends_of_ok ends ran
      rfl
  · exact congrFun (Driver.flatten_congr fun _ => rfl)
  · rw [recorders, if_pos rfl, held, Except.ok.injEq]
    exact eq_comm
  · have cleared : moved.registry.buffers.get? handle = some (restart.afresh recorder) := by
      rw [Registry.get_set_buffer there, if_pos rfl]
    simp [ProfiledDevice.needsReplay, Registry.hasTraps, cleared, restart.afresh_empty]

def recordedOnce : List LayerStep := (fresh (Config.default.withFrameList [0]) ⟨[], 0⟩).trace [
  .createDevice (.new "gpu" [⟨.beginCommandBuffer, 1, .deviceLost⟩] [] false) .empty,
  .getQueue ⟨0, 0⟩ 0 0,
  .allocate ⟨0, 0⟩ .primary,
  .beginBuffer ⟨⟨0, 0⟩, ⟨0, 0⟩⟩,
  .command ⟨⟨0, 0⟩, ⟨0, 0⟩⟩ (.dispatch 1 1 1),
  .endBuffer ⟨⟨0, 0⟩, ⟨0, 0⟩⟩]

def afterRecordedOnce : Layer := (fresh (Config.default.withFrameList [0]) ⟨[], 0⟩).outcome recordedOnce

theorem rejected_begin_forgets_dispatch :
    ∃ device recorder next, afterRecordedOnce.device ⟨0, 0⟩ = .ok device ∧
      afterRecordedOnce.recorder ⟨⟨0, 0⟩, ⟨0, 0⟩⟩ = .ok recorder ∧
      device.driver.fault? Restart.start.method = some .deviceLost ∧
      (perform (.beginBuffer ⟨⟨0, 0⟩, ⟨0, 0⟩⟩) afterRecordedOnce).outcome = .ok (.failed .deviceLost, next) ∧
      next.recorder ⟨⟨0, 0⟩, ⟨0, 0⟩⟩ = .ok recorder.start := by
  obtain ⟨device, live, recorder, held, rejected⟩ : ∃ device, afterRecordedOnce.device ⟨0, 0⟩ = .ok device ∧
      ∃ recorder, afterRecordedOnce.recorder ⟨⟨0, 0⟩, ⟨0, 0⟩⟩ = .ok recorder ∧
        device.driver.fault? Restart.start.method = some .deviceLost := ⟨_, rfl, _, rfl, by decide +kernel⟩
  obtain ⟨next, _, ran, _, _, _, _, recorders, _, _⟩ :=
    rejected_restart_forgets .start afterRecordedOnce ⟨⟨0, 0⟩, ⟨0, 0⟩⟩ device recorder .deviceLost live held rejected
  refine ⟨device, recorder, next, live, held, rejected, ?_, ?_⟩
  · exact congrArg Ran.outcome ran
  · rw [recorders, if_pos rfl]
    rfl

-- The buffer whose begin was rejected still has its trap on the driver, but no record. It is
-- submitted, the driver takes it, and the device is left standing in the trap.
def rejectedRun : List LayerStep := recordedOnce ++ afterRecordedOnce.trace [
  .beginBuffer ⟨⟨0, 0⟩, ⟨0, 0⟩⟩,
  .submit ⟨⟨0, 0⟩, ⟨0, 0⟩⟩ [⟨[⟨⟨0, 0⟩, ⟨0, 0⟩⟩], false⟩]]

def afterRejectedRun : Layer := afterRecordedOnce.outcome rejectedRun

def waitsIn (layer : Layer) (buffer : BufferId) : Nat :=
  match layer.device buffer.device with
  | .ok device => (device.driver.flatten (device.registry.rawOf buffer.buffer)).count (.wait device.events.hostToDevice)
  | .error _ => 0

theorem rejected_begin_strands_device :
    (rejectedRun.drop 3).map (fun step =>
        (step.reply, step.after.trappedIn ⟨⟨0, 0⟩, ⟨0, 0⟩⟩, step.after.waitsIn ⟨⟨0, 0⟩, ⟨0, 0⟩⟩)) =
      [(.done, 0, 0), (.done, 1, 1), (.done, 1, 1), (.failed .deviceLost, 0, 1), (.done, 0, 1)] ∧
    (afterRejectedRun.device ⟨0, 0⟩).toOption.map (fun device => (device.driver.timeline, device.trapCycles)) =
      some ([.wait 2, .reset 2], 0) := by
  decide +kernel

end Layer

end GpuProfiler
