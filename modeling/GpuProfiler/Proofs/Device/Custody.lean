import GpuProfiler.Proofs.Device.Silence

set_option autoImplicit false

namespace GpuProfiler

open Act Event

namespace DriverCall

def event? : DriverCall → Option RawEvent
  | .destroyEvent event | .eventStatus event | .setEvent event | .resetEvent event => some event
  | .commandSetEvent _ event | .commandWaitEvent _ event | .commandResetEvent _ event => some event
  | _ => none

def alters : DriverCall → Bool
  | .createEvent | .destroyEvent _ => true
  | _ => false

end DriverCall

namespace Event

def driver? : Event → Option String
  | .call name _ _ | .progress name _ => some name
  | _ => none

-- What is done elsewhere than on one driver, and what is done there with other events than those held.
def strays (name : String) (held : List RawEvent) : Event → Bool
  | .call driver made _ => driver != name || made.alters || made.event?.any fun event => !held.contains event
  | .progress driver _ => driver != name
  | _ => false

theorem strays_outward {name : String} {held : List RawEvent} (event : Event) (strays : event.strays name held = true) :
    event.isOutward = true := by
  cases event <;> first | rfl | cases strays

theorem driver_kept {name : String} {held : List RawEvent} {shown : List Event} (lacks : Lacks (strays name held) shown) :
    ∀ event ∈ shown, ∀ driver, event.driver? = some driver → driver = name := by
  intro event member driver named
  have near := lacks event member
  cases event with
  | call other made failed =>
    cases named
    simp only [strays, Bool.or_eq_false_iff, bne_eq_false_iff_eq] at near
    exact near.1.1
  | progress other done =>
    cases named
    simpa only [strays, bne_eq_false_iff_eq] using near
  | _ => cases named

end Event

namespace TrapEvents

def list (events : TrapEvents) : List RawEvent := [events.hostToDevice, events.deviceToHost]

end TrapEvents

/-- The driver of a device by its name, the events that live on it, and those of the device's trap. -/
structure Custody where
  name : String
  live : List RawEvent
  events : Option TrapEvents

def ProfiledDevice.custody (device : ProfiledDevice) : Custody :=
  ⟨device.driver.name, device.driver.live, device.trapEvents⟩

namespace Custody

def held (custody : Custody) : List RawEvent := (custody.events.map (·.list)).getD []

def strays (custody : Custody) : Event → Bool := Event.strays custody.name custody.held

@[simp] theorem strays_note (custody : Custody) (noticed : Note) : custody.strays (.note noticed) = false := rfl

structure Drives (custody : Custody) (driver : Driver) : Prop where
  name : driver.name = custody.name
  live : driver.live = custody.live

def Allows (custody : Custody) (call : DriverCall) : Prop :=
  call.alters = false ∧ ∀ event, call.event? = some event → event ∈ custody.held

abbrev Guards {α : Type} (custody : Custody) (act : Act Driver α) : Prop := Confines custody.Drives custody.strays act

variable {custody : Custody}

theorem allows_eventless {call : DriverCall} (still : call.alters = false) (none : call.event? = none) :
    custody.Allows call := ⟨still, fun event named => by rw [none] at named; cases named⟩

theorem strays_call {driver : Driver} (drives : custody.Drives driver) {call : DriverCall} (allowed : custody.Allows call) :
    custody.strays (Driver.callEvent call driver) = false := by
  simp only [strays, Event.strays, Driver.callEvent, drives.name, allowed.1, Bool.or_false, bne_self_eq_false,
    Bool.false_or]
  cases named : call.event? with
  | none => rfl
  | some event => simp [allowed.2 event named]

section Driver

variable {α : Type} {call : DriverCall} {work : Act Driver α}

theorem guards_do_call (allowed : custody.Allows call) (guards : custody.Guards work) :
    custody.Guards (Driver.doCall call work) := by
  intro driver drives
  have near := strays_call drives allowed
  rw [Driver.ends_do_call]
  refine ends_mono (guards _ ⟨drives.name, drives.live⟩) ?_ ?_
  · exact fun shown _ _ both => ⟨both.1, (lacks_cons _ shown).mpr ⟨near, both.2⟩⟩
  · exact fun shown _ lacks => (lacks_cons _ shown).mpr ⟨near, lacks⟩

theorem guards_try_call (allowed : custody.Allows call) (guards : custody.Guards work) :
    custody.Guards (Driver.tryCall call work) := by
  intro driver drives
  have near := strays_call drives allowed
  have counted : custody.Drives (driver.counted call.method) := ⟨drives.name, drives.live⟩
  rw [Driver.ends_try_call]
  split
  · exact ⟨counted, (lacks_cons _ []).mpr ⟨near, lacks_nil⟩⟩
  · refine ends_mono (guards _ counted) ?_ ?_
    · exact fun shown _ _ both => ⟨both.1, (lacks_cons _ shown).mpr ⟨near, both.2⟩⟩
    · exact fun shown _ lacks => (lacks_cons _ shown).mpr ⟨near, lacks⟩

theorem guards_modify {change : Driver → Driver} (name : ∀ driver, (change driver).name = driver.name)
    (live : ∀ driver, (change driver).live = driver.live) : custody.Guards (Act.modify change) :=
  confines_modify fun driver drives => ⟨(name driver).trans drives.name, (live driver).trans drives.live⟩

theorem guards_set {driver : Driver} (drives : custody.Drives driver) : custody.Guards (Act.set driver) :=
  fun _ _ => ⟨drives, lacks_nil⟩

theorem guards_work (ops : List DeviceOp) : custody.Guards (Driver.work ops) := by
  induction ops with
  | nil => exact guards_modify (fun _ => rfl) fun _ => rfl
  | cons op rest ih =>
    refine confines_get fun driver drives => ?_
    cases op.step? driver.signalled with
    | none => exact guards_set ⟨drives.name, drives.live⟩
    | some moved =>
      refine confines_bind (guards_set ⟨drives.name, drives.live⟩) fun _ => confines_bind (confines_emit ?_) fun _ => ih
      simp [strays, Event.strays, drives.name]

theorem guards_advance : custody.Guards Driver.advance := confines_get fun driver _ => guards_work driver.timeline

theorem guards_get_device_queue (family index : UInt32) : custody.Guards (Driver.getDeviceQueue family index) :=
  guards_do_call (allows_eventless rfl rfl) (confines_pure _)

theorem guards_allocate (level : BufferLevel) : custody.Guards (Driver.allocateCommandBuffer level) := by
  have numbered : custody.Guards Driver.nextBuffer := by
    refine confines_get fun driver drives => ?_
    cases driver.reserved with
    | nil => exact confines_get fun s now => confines_bind (guards_set ⟨now.name, now.live⟩) fun _ => confines_pure _
    | cons raw rest => exact confines_bind (guards_set ⟨drives.name, drives.live⟩) fun _ => confines_pure _
  exact guards_try_call (allows_eventless rfl rfl) (confines_bind numbered fun _ =>
    confines_bind (guards_modify (fun _ => rfl) fun _ => rfl) fun _ => confines_pure _)

theorem guards_free (buffer : RawBuffer) : custody.Guards (Driver.freeCommandBuffer buffer) :=
  guards_do_call (allows_eventless rfl rfl) (guards_modify (fun _ => rfl) fun _ => rfl)

theorem guards_begin (buffer : RawBuffer) : custody.Guards (Driver.beginCommandBuffer buffer) :=
  guards_try_call (allows_eventless rfl rfl) (guards_modify (fun _ => rfl) fun _ => rfl)

theorem guards_end (buffer : RawBuffer) : custody.Guards (Driver.endCommandBuffer buffer) :=
  guards_try_call (allows_eventless rfl rfl) (confines_pure _)

theorem guards_reset (buffer : RawBuffer) : custody.Guards (Driver.resetCommandBuffer buffer) :=
  guards_try_call (allows_eventless rfl rfl) (guards_modify (fun _ => rfl) fun _ => rfl)

theorem guards_command (buffer : RawBuffer) (recorded : Command) : custody.Guards (Driver.command buffer recorded) :=
  guards_do_call (allows_eventless rfl rfl) (guards_modify (fun _ => rfl) fun _ => rfl)

theorem guards_execute (buffer : RawBuffer) (secondaries : List RawBuffer) :
    custody.Guards (Driver.executeCommands buffer secondaries) :=
  guards_do_call (allows_eventless rfl rfl) (guards_modify (fun _ => rfl) fun _ => rfl)

theorem guards_queue_submit (queue : RawQueue) (batches : List (List RawBuffer)) :
    custody.Guards (Driver.queueSubmit queue batches) :=
  guards_try_call (allows_eventless rfl rfl)
    (confines_bind (guards_modify (fun _ => rfl) fun _ => rfl) fun _ => guards_advance)

theorem guards_queue_present (queue : RawQueue) : custody.Guards (Driver.queuePresent queue) :=
  guards_try_call (allows_eventless rfl rfl) (confines_pure _)

theorem guards_wait_idle : custody.Guards Driver.deviceWaitIdle := by
  refine guards_try_call (allows_eventless rfl rfl) (confines_get fun driver _ => ?_)
  split
  · exact confines_halt _
  · exact confines_pure ()

section Events

variable {event : RawEvent} (own : event ∈ custody.held)

include own

theorem allows_own {call : DriverCall} (still : call.alters = false) (names : call.event? = some event) :
    custody.Allows call := ⟨still, fun found named => by rw [names] at named; cases named; exact own⟩

theorem guards_event_status : custody.Guards (Driver.eventStatus event) := by
  refine guards_try_call (allows_own own rfl rfl) (confines_get fun driver drives => ?_)
  split
  · exact confines_bind (guards_set ⟨drives.name, drives.live⟩) fun _ => confines_pure _
  · split
    · exact confines_bind (guards_set ⟨drives.name, drives.live⟩) fun _ => confines_pure _
    · exact confines_halt _

theorem guards_set_event : custody.Guards (Driver.setEvent event) :=
  guards_try_call (allows_own own rfl rfl)
    (confines_bind (guards_modify (fun _ => rfl) fun _ => rfl) fun _ => guards_advance)

theorem guards_reset_event : custody.Guards (Driver.resetEvent event) :=
  guards_try_call (allows_own own rfl rfl) (guards_modify (fun _ => rfl) fun _ => rfl)

end Events

theorem guards_emit {events : TrapEvents} (own : custody.events = some events) (buffer : RawBuffer) :
    custody.Guards (events.emit buffer) := by
  have host : events.hostToDevice ∈ custody.held := by simp [held, own, TrapEvents.list]
  have device : events.deviceToHost ∈ custody.held := by simp [held, own, TrapEvents.list]
  refine confines_bind (guards_do_call (allows_own device rfl rfl) (guards_modify (fun _ => rfl) fun _ => rfl)) fun _ => ?_
  refine confines_bind (guards_do_call (allows_own host rfl rfl) (guards_modify (fun _ => rfl) fun _ => rfl)) fun _ => ?_
  exact guards_do_call (allows_own host rfl rfl) (guards_modify (fun _ => rfl) fun _ => rfl)

end Driver

end Custody

end GpuProfiler
