import GpuProfiler.Proofs.Driver.Contents
import GpuProfiler.Trap

set_option autoImplicit false

namespace GpuProfiler

inductive TimelineItem where
  | work (recorded : Command)
  | trap
deriving DecidableEq, Repr

abbrev Timeline := List TimelineItem

namespace TimelineItem

def ops (events : TrapEvents) : TimelineItem → List DeviceOp
  | .work recorded => [.work recorded]
  | .trap => [.set events.deviceToHost, .wait events.hostToDevice, .reset events.hostToDevice]

def record (events : TrapEvents) (buffer : RawBuffer) : TimelineItem → Act Driver Unit
  | .work recorded => Driver.command buffer recorded
  | .trap => events.emit buffer

end TimelineItem

namespace Timeline

def ops (events : TrapEvents) (items : Timeline) : List DeviceOp := items.flatMap (TimelineItem.ops events)

def traps (items : Timeline) : Nat := items.count .trap

def ofCommand (recorded : Command) (stops : Bool) : Timeline := .work recorded :: if stops then [.trap] else []

def record (events : TrapEvents) (buffer : RawBuffer) : Timeline → Act Driver Unit
  | [] => pure ()
  | item :: rest => do
    item.record events buffer
    record events buffer rest

@[simp] theorem ops_nil (events : TrapEvents) : ops events [] = [] := rfl

@[simp] theorem ops_append (events : TrapEvents) (items more : Timeline) :
    ops events (items ++ more) = ops events items ++ ops events more := List.flatMap_append

@[simp] theorem ops_work (events : TrapEvents) (recorded : Command) (rest : Timeline) :
    ops events (.work recorded :: rest) = .work recorded :: ops events rest := rfl

@[simp] theorem ops_trap (events : TrapEvents) (rest : Timeline) :
    ops events (.trap :: rest) =
      .set events.deviceToHost :: .wait events.hostToDevice :: .reset events.hostToDevice :: ops events rest :=
  rfl

@[simp] theorem traps_nil : traps [] = 0 := rfl

@[simp] theorem traps_append (items more : Timeline) : traps (items ++ more) = traps items + traps more :=
  List.count_append

@[simp] theorem traps_work (recorded : Command) (rest : Timeline) :
    traps (.work recorded :: rest) = traps rest := by
  simp [traps]

@[simp] theorem traps_trap (rest : Timeline) : traps (.trap :: rest) = traps rest + 1 := by
  simp [traps]

end Timeline

namespace TrapEvents

def calls (events : TrapEvents) (buffer : RawBuffer) : List DriverCall :=
  [.commandSetEvent buffer events.deviceToHost, .commandWaitEvent buffer events.hostToDevice,
    .commandResetEvent buffer events.hostToDevice]

theorem ends_emit (events : TrapEvents) (buffer : RawBuffer) (driver : Driver) :
    Act.Ends (events.emit buffer) driver
      (fun shown _ next => (Event.trapCalls shown = events.calls buffer ∧ Event.steps shown = []) ∧
        Driver.Recorded driver buffer ((TimelineItem.ops events .trap).map .device) next)
      (fun _ _ => False) := by
  simp only [emit, Driver.commandSetEvent, Driver.commandWaitEvent, Driver.commandResetEvent,
    Act.ends_bind, Driver.ends_do_call, Act.ends_modify]
  refine ⟨⟨rfl, rfl⟩, ?_⟩
  exact Driver.recorded_trans (Driver.recorded_append driver _ buffer _)
    (Driver.recorded_trans (Driver.recorded_append _ _ buffer _) (Driver.recorded_append _ _ buffer _))

end TrapEvents

theorem TimelineItem.ends_record (events : TrapEvents) (buffer : RawBuffer) (item : TimelineItem) (driver : Driver) :
    Act.Ends (item.record events buffer) driver
      (fun _ _ next => Driver.Recorded driver buffer ((item.ops events).map .device) next) (fun _ _ => False) := by
  cases item with
  | work recorded =>
    exact Act.ends_mono (Driver.ends_command buffer recorded driver) (fun _ _ _ both => both.2)
      (fun _ _ never => never)
  | trap =>
    exact Act.ends_mono (events.ends_emit buffer driver) (fun _ _ _ both => both.2) (fun _ _ never => never)

theorem Timeline.ends_record (events : TrapEvents) (buffer : RawBuffer) (items : Timeline) (driver : Driver) :
    Act.Ends (record events buffer items) driver
      (fun _ _ next => Driver.Recorded driver buffer ((ops events items).map .device) next) (fun _ _ => False) := by
  induction items generalizing driver with
  | nil => exact Driver.recorded_nil driver buffer
  | cons item rest ih =>
    simp only [record, Act.ends_bind]
    refine Act.ends_mono (item.ends_record events buffer driver) ?_ (fun _ _ never => never)
    intro shown _ middle first
    refine Act.ends_mono (ih middle) ?_ (fun _ _ never => never)
    intro later _ next second
    have both := Driver.recorded_trans first second
    simpa only [ops, List.flatMap_cons, List.map_append] using both

namespace Timeline

def recorded (events : TrapEvents) (items : Timeline) : List DeviceOp :=
  match (record events 0 items (.new "" [] [] false)).outcome with
  | .ok (_, driver) => driver.flatten 0
  | .error _ => []

theorem recorded_ops (events : TrapEvents) (items : Timeline) : recorded events items = ops events items := by
  have ends := ends_record events 0 items (.new "" [] [] false)
  unfold recorded
  rcases ran : record events 0 items (.new "" [] [] false) with ⟨shown, reason | ⟨_, driver⟩⟩
  · exact False.elim (Act.ends_of_error ends ran)
  · have same : driver.contents 0 = (ops events items).map .device := (Act.ends_of_ok ends ran).here
    simp only [Driver.flatten, same, Driver.expand_devices]

theorem count_set_ops (events : TrapEvents) (items : Timeline) :
    (ops events items).count (.set events.deviceToHost) = traps items := by
  induction items with
  | nil => rfl
  | cons item rest ih => cases item <;> simp [ih]

theorem count_wait_ops (events : TrapEvents) (items : Timeline) :
    (ops events items).count (.wait events.hostToDevice) = traps items := by
  induction items with
  | nil => rfl
  | cons item rest ih => cases item <;> simp [ih]

end Timeline

end GpuProfiler
