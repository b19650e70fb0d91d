import GpuProfiler.Command

set_option autoImplicit false

namespace GpuProfiler

abbrev RawQueue := Nat
abbrev RawBuffer := Nat
abbrev RawEvent := Nat

inductive DriverCall where
  | getDeviceQueue (family index : UInt32)
  | allocateCommandBuffer (level : BufferLevel)
  | freeCommandBuffer (buffer : RawBuffer)
  | beginCommandBuffer (buffer : RawBuffer)
  | endCommandBuffer (buffer : RawBuffer)
  | resetCommandBuffer (buffer : RawBuffer)
  | command (buffer : RawBuffer) (recorded : Command)
  | executeCommands (buffer : RawBuffer) (secondaries : List RawBuffer)
  | queueSubmit (queue : RawQueue) (batches : List (List RawBuffer))
  | queuePresent (queue : RawQueue)
  | deviceWaitIdle
  | createEvent
  | destroyEvent (event : RawEvent)
  | eventStatus (event : RawEvent)
  | setEvent (event : RawEvent)
  | resetEvent (event : RawEvent)
  | commandSetEvent (buffer : RawBuffer) (event : RawEvent)
  | commandWaitEvent (buffer : RawBuffer) (event : RawEvent)
  | commandResetEvent (buffer : RawBuffer) (event : RawEvent)
deriving DecidableEq, Repr

inductive DriverMethod where
  | getDeviceQueue
  | allocateCommandBuffer
  | freeCommandBuffer
  | beginCommandBuffer
  | endCommandBuffer
  | resetCommandBuffer
  | command
  | executeCommands
  | queueSubmit
  | queuePresent
  | deviceWaitIdle
  | createEvent
  | destroyEvent
  | eventStatus
  | setEvent
  | resetEvent
  | commandSetEvent
  | commandWaitEvent
  | commandResetEvent
deriving DecidableEq, Repr

namespace DriverMethod

def all : List DriverMethod :=
  [.getDeviceQueue, .allocateCommandBuffer, .freeCommandBuffer, .beginCommandBuffer,
    .endCommandBuffer, .resetCommandBuffer, .command, .executeCommands, .queueSubmit, .queuePresent,
    .deviceWaitIdle, .createEvent, .destroyEvent, .eventStatus, .setEvent, .resetEvent,
    .commandSetEvent, .commandWaitEvent, .commandResetEvent]

def name : DriverMethod → String
  | .getDeviceQueue => "get_device_queue"
  | .allocateCommandBuffer => "allocate_command_buffer"
  | .freeCommandBuffer => "free_command_buffer"
  | .beginCommandBuffer => "begin_command_buffer"
  | .endCommandBuffer => "end_command_buffer"
  | .resetCommandBuffer => "reset_command_buffer"
  | .command => "cmd"
  | .executeCommands => "cmd_execute_commands"
  | .queueSubmit => "queue_submit"
  | .queuePresent => "queue_present"
  | .deviceWaitIdle => "device_wait_idle"
  | .createEvent => "create_event"
  | .destroyEvent => "destroy_event"
  | .eventStatus => "event_status"
  | .setEvent => "set_event"
  | .resetEvent => "reset_event"
  | .commandSetEvent => "cmd_set_event"
  | .commandWaitEvent => "cmd_wait_event"
  | .commandResetEvent => "cmd_reset_event"

def ofName? (name : String) : Option DriverMethod := all.find? fun kind => kind.name == name

end DriverMethod

def BufferLevel.name : BufferLevel → String
  | .primary => "primary"
  | .secondary => "secondary"

def bracketed (parts : List String) : String := "[" ++ String.intercalate ", " parts ++ "]"

def rawList (raws : List Nat) : String := bracketed (raws.map toString)

namespace DriverCall

def method : DriverCall → DriverMethod
  | .getDeviceQueue _ _ => .getDeviceQueue
  | .allocateCommandBuffer _ => .allocateCommandBuffer
  | .freeCommandBuffer _ => .freeCommandBuffer
  | .beginCommandBuffer _ => .beginCommandBuffer
  | .endCommandBuffer _ => .endCommandBuffer
  | .resetCommandBuffer _ => .resetCommandBuffer
  | .command _ _ => .command
  | .executeCommands _ _ => .executeCommands
  | .queueSubmit _ _ => .queueSubmit
  | .queuePresent _ => .queuePresent
  | .deviceWaitIdle => .deviceWaitIdle
  | .createEvent => .createEvent
  | .destroyEvent _ => .destroyEvent
  | .eventStatus _ => .eventStatus
  | .setEvent _ => .setEvent
  | .resetEvent _ => .resetEvent
  | .commandSetEvent _ _ => .commandSetEvent
  | .commandWaitEvent _ _ => .commandWaitEvent
  | .commandResetEvent _ _ => .commandResetEvent

def arguments : DriverCall → List String
  | .getDeviceQueue family index => [toString family.toNat, toString index.toNat]
  | .allocateCommandBuffer level => [level.name]
  | .freeCommandBuffer buffer | .beginCommandBuffer buffer | .endCommandBuffer buffer
  | .resetCommandBuffer buffer => [toString buffer]
  | .command buffer recorded => [toString buffer, recorded.name]
  | .executeCommands buffer secondaries => [toString buffer, rawList secondaries]
  | .queueSubmit queue batches => [toString queue, bracketed (batches.map rawList)]
  | .queuePresent queue => [toString queue]
  | .deviceWaitIdle | .createEvent => []
  | .destroyEvent event | .eventStatus event | .setEvent event | .resetEvent event => [toString event]
  | .commandSetEvent buffer event | .commandWaitEvent buffer event
  | .commandResetEvent buffer event => [toString buffer, toString event]

def text (call : DriverCall) : String :=
  String.intercalate " " (call.method.name :: call.arguments)

end DriverCall

inductive DeviceStep where
  | work (command : Command)
  | set (event : RawEvent)
  | resume (event : RawEvent)
  | reset (event : RawEvent)
deriving DecidableEq, Repr

def DeviceStep.text : DeviceStep → String
  | .work command => "work " ++ command.name
  | .set event => "set " ++ toString event
  | .resume event => "resume " ++ toString event
  | .reset event => "reset " ++ toString event

end GpuProfiler
