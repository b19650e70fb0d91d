import GpuProfiler.EntryPoint
import GpuProfiler.ProfiledDevice

set_option autoImplicit false

namespace GpuProfiler

abbrev DeviceId := Handle ProfiledDevice

structure QueueId where
  device : DeviceId
  queue : QueueHandle
deriving DecidableEq, Repr

structure BufferId where
  device : DeviceId
  buffer : BufferHandle
deriving DecidableEq, Repr

structure Submission where
  buffers : List BufferId
  endsFrame : Bool
deriving DecidableEq, Repr

structure Layer where
  config : Config
  entryPoints : EntryPointTable
  shared : Shared
  devices : Arena ProfiledDevice
deriving DecidableEq, Repr

def deviceText (id : DeviceId) : String := "DeviceId(" ++ id.render "ProfileDevice" ++ ")"

namespace QueueId

def logText (id : QueueId) : String :=
  "QueueId \x7b device: " ++ deviceText id.device ++ ", queue: " ++ id.queue.render "QueueTracker" ++ " \x7d"

end QueueId

namespace BufferId

def logText (id : BufferId) : String :=
  "CommandBufferId \x7b device: " ++ deviceText id.device ++ ", buffer: "
    ++ id.buffer.render "CommandBufferTracker" ++ " \x7d"

end BufferId

namespace Submission

-- The driver's numbers, batch by batch, and all the handles in order. The first buffer that is of
-- another device or not live is the error.
def resolveBuffers (device : DeviceId) (registry : Registry) :
    List BufferId → Except Error (List RawBuffer × List BufferHandle)
  | [] => .ok ([], [])
  | id :: rest =>
    if id.device ≠ device then .error .foreignHandle
    else
      match registry.buffer id.buffer with
      | .error error => .error error
      | .ok recorder =>
        (resolveBuffers device registry rest).map fun (raws, handles) =>
          (recorder.raw :: raws, id.buffer :: handles)

def resolve (device : DeviceId) (registry : Registry) :
    List Submission → Except Error (List (List RawBuffer) × List BufferHandle)
  | [] => .ok ([], [])
  | submission :: rest =>
    match resolveBuffers device registry submission.buffers with
    | .error error => .error error
    | .ok (raws, handles) =>
      (resolve device registry rest).map fun (batches, others) => (raws :: batches, handles ++ others)

end Submission

abbrev ReplayPolicy := ProfiledDevice → List BufferHandle → Bool

namespace DeviceScope

def getQueue (family index : UInt32) : Act DeviceScope QueueHandle := do
  let raw ← Act.on driverPart (Driver.getDeviceQueue family index)
  Act.on registryPart (Registry.registerQueue raw family index)

def allocate (level : BufferLevel) : Act DeviceScope (Except Error BufferHandle) := do
  match ← Act.on driverPart (Driver.allocateCommandBuffer level) with
  | .error error => pure (.error error)
  | .ok raw => return .ok (← Act.on registryPart (Registry.allocate raw level))

def free (buffer : BufferHandle) : Act DeviceScope (Except Error Unit) := do
  match ← Act.on registryPart (Registry.free buffer) with
  | .error error => pure (.error error)
  | .ok recorder => return .ok (← Act.on driverPart (Driver.freeCommandBuffer recorder.raw))

def updateThenCall (buffer : BufferHandle) (change : Recorder → Recorder)
    (call : RawBuffer → Act Driver (Except Error Unit)) : Act DeviceScope (Except Error Unit) := do
  match ← Act.on trackingPart (Tracking.withBuffer buffer (Recording.update change)) with
  | .error error => pure (.error error)
  | .ok (raw, ()) => Act.on driverPart (call raw)

def emitTrap (wanted : Bool) (events : Option TrapEvents) (raw : RawBuffer) : Act DeviceScope Unit :=
  match wanted, events with
  | true, some events => Act.on driverPart (events.emit raw)
  | _, _ => pure ()

def command (buffer : BufferHandle) (recorded : Command) : Act DeviceScope (Except Error Unit) := do
  let device := (← Act.get).device
  match ← Act.on trackingPart
      (Tracking.withBuffer buffer (Recording.command recorded device.captureMode)) with
  | .error error => pure (.error error)
  | .ok (raw, trapAfter) =>
    Act.on driverPart (Driver.command raw recorded)
    emitTrap trapAfter device.trapEvents raw
    pure (.ok ())

def execute (primary : BufferHandle) (secondaries : List BufferHandle) :
    Act DeviceScope (Except Error Unit) := do
  match ← Act.on registryPart (Registry.execute primary secondaries) with
  | .error error => pure (.error error)
  | .ok () =>
    let registry := (← Act.get).device.registry
    match registry.buffer primary, registry.raws secondaries with
    | .ok recorder, .ok raws =>
      return .ok (← Act.on driverPart (Driver.executeCommands recorder.raw raws))
    | .error error, _ | _, .error error => pure (.error error)

def finishIfAny : Option FrameTransition → Act DeviceScope Unit
  | some transition => finishFrame transition
  | none => pure ()

def advanceIf (endsFrame : Bool) : Act DeviceScope (Option FrameTransition) :=
  if endsFrame then do return some (← advanceFrame) else pure none

def transitionSamples (device : ProfiledDevice) : Option FrameTransition → Bool
  | some transition => device.transitionSamples transition
  | none => false

def replayIf (wanted : Bool) (queue : QueueHandle) (buffers : List BufferHandle) : Act DeviceScope Unit :=
  if wanted then do Act.noteFailure .replayFailed (← replay queue buffers) else pure ()

-- Passes a submission on and replays it if the policy asks for that. A boundary is worked off
-- before the submission is passed on, unless it samples or there is something to replay.
def submit (policy : ReplayPolicy) (queue : QueueHandle) (raw : RawQueue)
    (batches : List (List RawBuffer)) (buffers : List BufferHandle) (endsFrame : Bool) :
    Act DeviceScope (Except Error Unit) := do
  noteSubmit
  let replays := policy (← Act.get).device buffers
  let transition ← advanceIf endsFrame
  let samples := transitionSamples (← Act.get).device transition
  if !replays && !samples then
    finishIfAny transition
    Act.on driverPart (Driver.queueSubmit raw batches)
  else
    let result ← Act.on driverPart (Driver.queueSubmit raw batches)
    replayIf (replays && result.isOk) queue buffers
    finishIfAny transition
    pure result

def present (raw : RawQueue) : Act DeviceScope (Except Error Unit) := do
  let transition ← advanceFrame
  if (← Act.get).device.transitionSamples transition then
    let result ← Act.on driverPart (Driver.queuePresent raw)
    finishFrame transition
    pure result
  else
    finishFrame transition
    Act.on driverPart (Driver.queuePresent raw)

end DeviceScope

namespace Layer

def start {σ : Type} (config : Config) (endpoint : ShowingEndpoint) : Act σ Layer := do
  let entryPoints := EntryPointTable.forConfig config
  Act.note (.intercepting entryPoints.size)
  Act.note (.layerStarted config.mode config.sampleWorkloads config.sampleFrames)
  pure ⟨config, entryPoints, ⟨.new endpoint, .first⟩, .empty⟩

def device (layer : Layer) (id : DeviceId) : Except Error ProfiledDevice :=
  match layer.devices.get? id with
  | some device => .ok device
  | none => .error .invalidHandle

def sharedPart : Part Layer Shared := ⟨(·.shared), fun shared layer => { layer with shared := shared }⟩

def scopePart (id : DeviceId) (device : ProfiledDevice) : Part Layer DeviceScope where
  get layer := ⟨device, layer.shared⟩
  set scope layer :=
    { layer with devices := layer.devices.set id scope.device, shared := scope.shared }

def onDevice {α : Type} (id : DeviceId) (act : Act DeviceScope (Except Error α)) :
    Act Layer (Except Error α) := do
  match (← Act.get).device id with
  | .error error => pure (.error error)
  | .ok device => Act.on (scopePart id device) act

def createDevice (driver : Driver) (backend : Backend) : Act Layer DeviceId := do
  let config := (← Act.get).config
  let device ← Act.on sharedPart (ProfiledDevice.activate driver backend config)
  let layer ← Act.get
  let (id, devices) := layer.devices.insert device
  Act.set { layer with devices := devices }
  pure id

def destroyDevice (id : DeviceId) : Act Layer (Except Error Unit) := do
  let layer ← Act.get
  match layer.devices.remove id with
  | (none, _) => pure (.error .invalidHandle)
  | (some device, devices) =>
    Act.set { layer with devices := devices }
    Act.note (.deviceDestroyed device.trapCycles)
    let _ ← Act.apart device.driver device.destroyTrap
    pure (.ok ())

def getQueue (id : DeviceId) (family index : UInt32) : Act Layer (Except Error QueueId) :=
  onDevice id do return .ok ⟨id, ← DeviceScope.getQueue family index⟩

def allocate (id : DeviceId) (level : BufferLevel) : Act Layer (Except Error BufferId) :=
  onDevice id do return (← DeviceScope.allocate level).map fun buffer => ⟨id, buffer⟩

def free (id : BufferId) : Act Layer (Except Error Unit) :=
  onDevice id.device (DeviceScope.free id.buffer)

def beginBuffer (id : BufferId) : Act Layer (Except Error Unit) :=
  onDevice id.device (DeviceScope.updateThenCall id.buffer Recorder.start Driver.beginCommandBuffer)

def endBuffer (id : BufferId) : Act Layer (Except Error Unit) :=
  onDevice id.device (DeviceScope.updateThenCall id.buffer Recorder.finish Driver.endCommandBuffer)

def resetBuffer (id : BufferId) : Act Layer (Except Error Unit) :=
  onDevice id.device (DeviceScope.updateThenCall id.buffer Recorder.reset Driver.resetCommandBuffer)

def command (id : BufferId) (recorded : Command) : Act Layer (Except Error Unit) :=
  onDevice id.device (DeviceScope.command id.buffer recorded)

def execute (id : BufferId) (secondaries : List BufferId) : Act Layer (Except Error Unit) :=
  onDevice id.device
    (if secondaries.any fun secondary => secondary.device != id.device then pure (.error .foreignHandle)
    else DeviceScope.execute id.buffer (secondaries.map (·.buffer)))

def submitUnder (policy : ReplayPolicy) (queue : QueueId) (submissions : List Submission) :
    Act Layer (Except Error Unit) :=
  onDevice queue.device do
    let registry := (← Act.get).device.registry
    match registry.queue queue.queue with
    | .error error => pure (.error error)
    | .ok tracked =>
      match Submission.resolve queue.device registry submissions with
      | .error error => pure (.error error)
      | .ok (batches, buffers) =>
        DeviceScope.submit policy queue.queue tracked.raw batches buffers (submissions.any (·.endsFrame))

def submit (queue : QueueId) (submissions : List Submission) : Act Layer (Except Error Unit) :=
  submitUnder ProfiledDevice.needsReplay queue submissions

def present (queue : QueueId) : Act Layer (Except Error Unit) :=
  onDevice queue.device do
    match (← Act.get).device.registry.queue queue.queue with
    | .error error => pure (.error error)
    | .ok tracked => DeviceScope.present tracked.raw

def frameIndex (layer : Layer) (id : DeviceId) : Except Error Nat :=
  (layer.device id).map (·.frame.index)

def framePhase (layer : Layer) (id : DeviceId) : Except Error FramePhase :=
  (layer.device id).map (·.frame.phase)

def isCapturing (layer : Layer) (id : DeviceId) : Except Error Bool :=
  (layer.device id).map (·.captures)

def trapCycles (layer : Layer) (id : DeviceId) : Except Error Nat :=
  (layer.device id).map (·.trapCycles)

def recorder (layer : Layer) (id : BufferId) : Except Error Recorder :=
  match layer.device id.device with
  | .error error => .error error
  | .ok device => device.registry.buffer id.buffer

def rawBuffer (layer : Layer) (id : BufferId) : Except Error RawBuffer :=
  (layer.recorder id).map (·.raw)

def recordedWorkloads (layer : Layer) (id : BufferId) : Except Error Nat :=
  (layer.recorder id).map (·.stream.length)

end Layer

end GpuProfiler
