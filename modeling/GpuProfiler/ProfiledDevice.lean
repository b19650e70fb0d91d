import GpuProfiler.Frame.Tracker
import GpuProfiler.Registry
import GpuProfiler.Sampler

set_option autoImplicit false

namespace GpuProfiler

structure ProfiledDevice where
  driver : Driver
  config : Config
  registry : Registry
  frame : FrameTracker
  trap : Option Trap
  session : CounterSession Backend
deriving DecidableEq, Repr

namespace ProfiledDevice

def isProfiling (device : ProfiledDevice) : Bool := device.trap.isSome

def captures (device : ProfiledDevice) : Bool :=
  device.isProfiling && device.frame.captures device.config

def captureMode (device : ProfiledDevice) : CaptureMode :=
  if device.captures then .capture else if device.isProfiling then .track else .off

def trapEvents (device : ProfiledDevice) : Option TrapEvents := device.trap.map (·.events)

def trapCycles (device : ProfiledDevice) : Nat :=
  match device.trap with
  | some trap => trap.cycles
  | none => 0

def needsReplay (device : ProfiledDevice) (buffers : List BufferHandle) : Bool :=
  device.isProfiling && device.registry.hasTraps buffers

def transitionSamples (device : ProfiledDevice) (transition : FrameTransition) : Bool :=
  device.isProfiling && transition.actions.needsSample

def logText (device : ProfiledDevice) : String :=
  let trap :=
    match device.trap with
    | some trap => "Some(" ++ trap.logText ++ ")"
    | none => "None"
  "ProfileDevice \x7b frame: " ++ device.frame.logText ++ ", trap: " ++ trap ++ ", session: "
    ++ device.session.logText ++ ", .. \x7d"

end ProfiledDevice

structure Shared where
  sender : Sender ShowingEndpoint
  tags : TagSource
deriving DecidableEq, Repr

structure DeviceScope where
  device : ProfiledDevice
  shared : Shared
deriving DecidableEq, Repr

namespace DeviceScope

def driverPart : Part DeviceScope Driver :=
  ⟨(·.device.driver), fun driver s => { s with device := { s.device with driver := driver } }⟩

def registryPart : Part DeviceScope Registry :=
  ⟨(·.device.registry), fun registry s => { s with device := { s.device with registry := registry } }⟩

def trackingPart : Part DeviceScope Tracking :=
  ⟨fun s => ⟨s.device.registry, s.shared.tags⟩,
    fun done s =>
      ⟨{ s.device with registry := done.registry }, { s.shared with tags := done.tags }⟩⟩

def framePart : Part DeviceScope FrameTracker :=
  ⟨(·.device.frame), fun frame s => { s with device := { s.device with frame := frame } }⟩

def sessionPart : Part DeviceScope (CounterSession Backend) :=
  ⟨(·.device.session), fun session s => { s with device := { s.device with session := session } }⟩

def senderPart : Part DeviceScope (Sender ShowingEndpoint) :=
  ⟨(·.shared.sender), fun sender s => { s with shared := { s.shared with sender := sender } }⟩

def samplingPart (trap : Trap) : Part DeviceScope (Registry × Sampler) where
  get s := (s.device.registry, ⟨s.device.driver, trap, s.device.session, s.shared.sender, 0⟩)
  set done s :=
    ⟨{ s.device with
        registry := done.1
        driver := done.2.driver
        trap := some done.2.trap
        session := done.2.session },
      { s.shared with sender := done.2.sender }⟩

def replay (queue : QueueHandle) (buffers : List BufferHandle) : Act DeviceScope (Except Error Unit) := do
  match (← Act.get).device.trap with
  | none => pure (.ok ())
  | some trap =>
    Act.on (samplingPart trap) do
      match ← Registry.replay Sampler.visit queue buffers with
      | .error error => pure (.error error)
      | .ok records =>
        Act.note (.replayed records (← Act.get).2.sampled)
        pure (.ok ())

def sampleBoundary (transition : FrameTransition) : Act DeviceScope Unit := do
  Act.noteFailure .waitIdleFailed (← Act.on driverPart Driver.deviceWaitIdle)
  let latched ← Act.on sessionPart CounterSession.sampleNow
  if latched && transition.actions.sampleFrame then do
    let counters ← Act.on sessionPart CounterSession.readAll
    Act.on senderPart (Sender.emit (.frameCounters transition.closing counters))
  else pure ()

def emitIf (condition : Bool) (message : Message) : Act DeviceScope Unit :=
  if condition then Act.on senderPart (Sender.emit message) else pure ()

def apply (transition : FrameTransition) : Act DeviceScope Unit := do
  emitIf transition.actions.endFrame (.endFrame transition.closing)
  emitIf transition.actions.startFrame (.startFrame transition.opening)
  if transition.actions.needsSample then sampleBoundary transition else pure ()

def finishFrame (transition : FrameTransition) : Act DeviceScope Unit := do
  if (← Act.get).device.isProfiling then apply transition else pure ()

-- Closes the current frame. What the boundary asks for is still to be done.
def advanceFrame : Act DeviceScope FrameTransition := do
  let config := (← Act.get).device.config
  Act.on framePart (FrameTracker.boundary config)

def noteSubmit : Act DeviceScope Unit := Act.on framePart FrameTracker.noteSubmit

end DeviceScope

namespace ProfiledDevice

-- The trap of a new device. There is one only if the configuration can sample anything and both
-- events could be created.
def createTrap (config : Config) : Act Driver (Option Trap) :=
  if config.isActive then do
    match ← Trap.create config.trap with
    | .ok trap => pure (some trap)
    | .error error =>
      Act.note (.trapUnavailable error)
      pure none
  else pure none

def activate (driver : Driver) (backend : Backend) (config : Config) : Act Shared ProfiledDevice := do
  let (trap, driver) ← Act.apart driver (createTrap config)
  let session ← CounterSession.start backend config.counters
  let device : ProfiledDevice := ⟨driver, config, .empty, .start config, trap, session⟩
  Act.note (.profilingDecided device.isProfiling)
  if device.isProfiling then
    let ((), scope) ← Act.apart ⟨device, ← Act.get⟩
      (DeviceScope.apply ⟨0, 0, FrameTracker.startActions config⟩)
    Act.set scope.shared
    pure scope.device
  else pure device

def destroyTrap (device : ProfiledDevice) : Act Driver Unit :=
  match device.trap with
  | some trap => trap.destroy
  | none => pure ()

end ProfiledDevice

end GpuProfiler
