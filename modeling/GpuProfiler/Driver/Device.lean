import GpuProfiler.Driver.EventHost

/-!
A driver and the device it drives, as far as the layer can tell. Command buffers hold operations,
and a submission puts those of its buffers on the timeline. The device works the timeline off in
order; at a wait for an event that is not set it parks, until the host sets the event.

Faults are scripted: the k-th call of a kind, counted from 0, fails with a given error and then has
no effect. Calls that cannot fail take effect all the same.
-/
set_option autoImplicit false

namespace GpuProfiler

inductive DeviceOp where
  | work (recorded : Command)
  | set (event : RawEvent)
  | wait (event : RawEvent)
  | reset (event : RawEvent)
deriving DecidableEq, Repr

-- What comes of an operation while the given events are signalled: the step the device takes and
-- the events signalled after it. A wait for an event that is not signalled is no step.
def DeviceOp.step? (signalled : List RawEvent) : DeviceOp → Option (DeviceStep × List RawEvent)
  | .work recorded => some (.work recorded, signalled)
  | .set event => some (.set event, event :: signalled.filter (· != event))
  | .wait event => if signalled.contains event then some (.resume event, signalled) else none
  | .reset event => some (.reset event, signalled.filter (· != event))

inductive BufferOp where
  | device (op : DeviceOp)
  | execute (buffers : List RawBuffer)
deriving DecidableEq, Repr

structure Fault where
  method : DriverMethod
  number : Nat
  error : Error
deriving DecidableEq, Repr

/-- `handles` is the last number given to an event or a buffer; numbers in `reserved` are given to
buffers first. `calls` holds the kind of each call so far, the last one first. -/
structure Driver where
  name : String
  faults : List Fault
  reserved : List RawBuffer
  autoSet : Bool
  calls : List DriverMethod
  handles : Nat
  buffers : List (RawBuffer × List BufferOp)
  timeline : List DeviceOp
  live : List RawEvent
  signalled : List RawEvent
  polls : Nat
deriving DecidableEq, Repr

namespace Driver

-- Polls of events that are not set before the host is taken to be blocked for good.
def pollLimit : Nat := 20

-- How deep buffers executed from one another are followed.
def executionDepth : Nat := 4

def new (name : String) (faults : List Fault) (reserved : List RawBuffer) (autoSet : Bool) : Driver :=
  ⟨name, faults, reserved, autoSet, [], 0, [], [], [], [], 0⟩

def fault? (driver : Driver) (method : DriverMethod) : Option Error :=
  (driver.faults.find? fun fault =>
    decide (fault.method = method) && fault.number == driver.calls.count method).map (·.error)

def attempt (call : DriverCall) : Act Driver (Option Error) := do
  let driver ← Act.get
  let fault := driver.fault? call.method
  Act.set { driver with calls := call.method :: driver.calls }
  Act.emit (.call driver.name call fault.isSome)
  pure fault

def tryCall {α : Type} (call : DriverCall) (work : Act Driver α) : Act Driver (Except Error α) := do
  match ← attempt call with
  | some error => pure (.error error)
  | none => return .ok (← work)

def doCall {α : Type} (call : DriverCall) (work : Act Driver α) : Act Driver α := do
  let _ ← attempt call
  work

def contents (driver : Driver) (buffer : RawBuffer) : List BufferOp :=
  (driver.buffers.lookup buffer).getD []

def dropBuffer (driver : Driver) (buffer : RawBuffer) : Driver :=
  { driver with buffers := driver.buffers.filter (·.1 != buffer) }

def setContents (driver : Driver) (buffer : RawBuffer) (ops : List BufferOp) : Driver :=
  { driver with buffers := (buffer, ops) :: (driver.dropBuffer buffer).buffers }

def append (driver : Driver) (buffer : RawBuffer) (op : BufferOp) : Driver :=
  driver.setContents buffer (driver.contents buffer ++ [op])

def isSignalled (driver : Driver) (event : RawEvent) : Bool := driver.signalled.contains event

def unsignal (driver : Driver) (event : RawEvent) : Driver :=
  { driver with signalled := driver.signalled.filter (· != event) }

def signal (driver : Driver) (event : RawEvent) : Driver :=
  { driver with signalled := event :: (driver.unsignal event).signalled }

-- The operations an operation stands for; executed buffers are taken as they are now.
def expand (driver : Driver) : Nat → BufferOp → List DeviceOp
  | _, .device op => [op]
  | 0, .execute _ => []
  | depth + 1, .execute buffers =>
    buffers.flatMap fun buffer => (driver.contents buffer).flatMap (expand driver depth)

def flatten (driver : Driver) (buffer : RawBuffer) : List DeviceOp :=
  (driver.contents buffer).flatMap (driver.expand executionDepth)

def work : List DeviceOp → Act Driver Unit
  | [] => Act.modify fun driver => { driver with timeline := [] }
  | op :: rest => do
    let driver ← Act.get
    match op.step? driver.signalled with
    | none => Act.set { driver with timeline := op :: rest }
    | some (step, signalled) =>
      Act.set { driver with signalled := signalled }
      Act.emit (.progress driver.name step)
      work rest

def advance : Act Driver Unit := do
  work (← Act.get).timeline

def nextHandle : Act Driver Nat := do
  let driver ← Act.get
  Act.set { driver with handles := driver.handles + 1 }
  pure (driver.handles + 1)

def nextBuffer : Act Driver RawBuffer := do
  let driver ← Act.get
  match driver.reserved with
  | raw :: rest =>
    Act.set { driver with reserved := rest }
    pure raw
  | [] => nextHandle

def getDeviceQueue (family index : UInt32) : Act Driver RawQueue :=
  doCall (.getDeviceQueue family index) (pure (0x1000 + family.toNat * 16 + index.toNat))

def allocateCommandBuffer (level : BufferLevel) : Act Driver (Except Error RawBuffer) :=
  tryCall (.allocateCommandBuffer level) do
    let raw ← nextBuffer
    Act.modify (·.setContents raw [])
    pure raw

def freeCommandBuffer (buffer : RawBuffer) : Act Driver Unit :=
  doCall (.freeCommandBuffer buffer) (Act.modify (·.dropBuffer buffer))

def beginCommandBuffer (buffer : RawBuffer) : Act Driver (Except Error Unit) :=
  tryCall (.beginCommandBuffer buffer) (Act.modify (·.setContents buffer []))

def endCommandBuffer (buffer : RawBuffer) : Act Driver (Except Error Unit) :=
  tryCall (.endCommandBuffer buffer) (pure ())

def resetCommandBuffer (buffer : RawBuffer) : Act Driver (Except Error Unit) :=
  tryCall (.resetCommandBuffer buffer) (Act.modify (·.setContents buffer []))

def command (buffer : RawBuffer) (recorded : Command) : Act Driver Unit :=
  doCall (.command buffer recorded) (Act.modify (·.append buffer (.device (.work recorded))))

def executeCommands (buffer : RawBuffer) (secondaries : List RawBuffer) : Act Driver Unit :=
  doCall (.executeCommands buffer secondaries) (Act.modify (·.append buffer (.execute secondaries)))

def queueSubmit (queue : RawQueue) (batches : List (List RawBuffer)) : Act Driver (Except Error Unit) :=
  tryCall (.queueSubmit queue batches) do
    Act.modify fun driver =>
      { driver with timeline := driver.timeline ++ batches.flatten.flatMap driver.flatten }
    advance

def queuePresent (queue : RawQueue) : Act Driver (Except Error Unit) :=
  tryCall (.queuePresent queue) (pure ())

def deviceWaitIdle : Act Driver (Except Error Unit) :=
  tryCall .deviceWaitIdle do
    if !(← Act.get).timeline.isEmpty then
      Act.halt .blocked

def createEvent : Act Driver (Except Error RawEvent) :=
  tryCall .createEvent do
    let event ← nextHandle
    Act.modify fun driver => { driver.unsignal event with live := event :: driver.live }
    pure event

def destroyEvent (event : RawEvent) : Act Driver Unit :=
  doCall (.destroyEvent event)
    (Act.modify fun driver => { driver.unsignal event with live := driver.live.filter (· != event) })

-- Looks at an event. Too many looks at events that are not set, with none that is set between them,
-- block for good.
def eventStatus (event : RawEvent) : Act Driver (Except Error EventStatus) :=
  tryCall (.eventStatus event) do
    let driver ← Act.get
    if driver.autoSet || driver.isSignalled event then
      Act.set { driver with polls := 0 }
      pure .set
    else if driver.polls + 1 < pollLimit then
      Act.set { driver with polls := driver.polls + 1 }
      pure .unset
    else
      Act.halt .blocked

def setEvent (event : RawEvent) : Act Driver (Except Error Unit) :=
  tryCall (.setEvent event) do
    Act.modify (·.signal event)
    advance

def resetEvent (event : RawEvent) : Act Driver (Except Error Unit) :=
  tryCall (.resetEvent event) (Act.modify (·.unsignal event))

def commandSetEvent (buffer : RawBuffer) (event : RawEvent) : Act Driver Unit :=
  doCall (.commandSetEvent buffer event) (Act.modify (·.append buffer (.device (.set event))))

def commandWaitEvent (buffer : RawBuffer) (event : RawEvent) : Act Driver Unit :=
  doCall (.commandWaitEvent buffer event) (Act.modify (·.append buffer (.device (.wait event))))

def commandResetEvent (buffer : RawBuffer) (event : RawEvent) : Act Driver Unit :=
  doCall (.commandResetEvent buffer event) (Act.modify (·.append buffer (.device (.reset event))))

def statusFaultsLeft (driver : Driver) : Nat :=
  driver.faults.countP fun fault =>
    decide (fault.method = .eventStatus) && decide (driver.calls.count .eventStatus ≤ fault.number)

-- Each look at an event that is not found set uses up a fault or a poll.
instance : EventHost Driver where
  createEvent := createEvent
  destroyEvent := destroyEvent
  eventStatus := eventStatus
  setEvent := setEvent
  resetEvent := resetEvent
  patience driver := driver.statusFaultsLeft + (pollLimit - driver.polls)

end Driver

end GpuProfiler
