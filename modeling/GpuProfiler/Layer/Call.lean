import GpuProfiler.Layer

set_option autoImplicit false

namespace GpuProfiler

inductive LayerCall where
  | createDevice (driver : Driver) (backend : Backend)
  | destroyDevice (device : DeviceId)
  | getQueue (device : DeviceId) (family index : UInt32)
  | allocate (device : DeviceId) (level : BufferLevel)
  | free (buffer : BufferId)
  | beginBuffer (buffer : BufferId)
  | endBuffer (buffer : BufferId)
  | resetBuffer (buffer : BufferId)
  | command (buffer : BufferId) (recorded : Command)
  | execute (buffer : BufferId) (secondaries : List BufferId)
  | submit (queue : QueueId) (submissions : List Submission)
  | present (queue : QueueId)
  | frameIndex (device : DeviceId)
  | framePhase (device : DeviceId)
  | isCapturing (device : DeviceId)
  | trapCycles (device : DeviceId)
  | rawBuffer (buffer : BufferId)
  | recordedWorkloads (buffer : BufferId)
  | deviceCount
deriving DecidableEq, Repr

inductive LayerReply where
  | device (id : DeviceId)
  | queue (id : QueueId)
  | buffer (id : BufferId)
  | done
  | number (value : Nat)
  | flag (value : Bool)
  | phase (value : FramePhase)
  | failed (error : Error)
deriving DecidableEq, Repr

namespace LayerReply

def ofAnswer {α : Type} (reply : α → LayerReply) : Except Error α → LayerReply
  | .ok value => reply value
  | .error error => .failed error

end LayerReply

namespace Layer

def look (find : Layer → LayerReply) : Act Layer LayerReply := fun layer => ⟨[], .ok (find layer, layer)⟩

def perform : LayerCall → Act Layer LayerReply
  | .createDevice driver backend => return .device (← createDevice driver backend)
  | .destroyDevice device => return .ofAnswer (fun _ => .done) (← destroyDevice device)
  | .getQueue device family index => return .ofAnswer .queue (← getQueue device family index)
  | .allocate device level => return .ofAnswer .buffer (← allocate device level)
  | .free buffer => return .ofAnswer (fun _ => .done) (← free buffer)
  | .beginBuffer buffer => return .ofAnswer (fun _ => .done) (← beginBuffer buffer)
  | .endBuffer buffer => return .ofAnswer (fun _ => .done) (← endBuffer buffer)
  | .resetBuffer buffer => return .ofAnswer (fun _ => .done) (← resetBuffer buffer)
  | .command buffer recorded => return .ofAnswer (fun _ => .done) (← command buffer recorded)
  | .execute buffer secondaries => return .ofAnswer (fun _ => .done) (← execute buffer secondaries)
  | .submit queue submissions => return .ofAnswer (fun _ => .done) (← submit queue submissions)
  | .present queue => return .ofAnswer (fun _ => .done) (← present queue)
  | .frameIndex device => look fun layer => .ofAnswer .number (layer.frameIndex device)
  | .framePhase device => look fun layer => .ofAnswer .phase (layer.framePhase device)
  | .isCapturing device => look fun layer => .ofAnswer .flag (layer.isCapturing device)
  | .trapCycles device => look fun layer => .ofAnswer .number (layer.trapCycles device)
  | .rawBuffer buffer => look fun layer => .ofAnswer .number (layer.rawBuffer buffer)
  | .recordedWorkloads buffer => look fun layer => .ofAnswer .number (layer.recordedWorkloads buffer)
  | .deviceCount => look fun layer => .number layer.devices.size

def performAll : List LayerCall → Act Layer (List LayerReply)
  | [] => pure []
  | call :: rest => do
    let reply ← perform call
    let replies ← performAll rest
    pure (reply :: replies)

end Layer

end GpuProfiler
