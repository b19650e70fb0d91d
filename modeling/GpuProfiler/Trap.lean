import GpuProfiler.Driver.Device

/-!
Traps. A trap parks the device at a chosen point, so that the host can sample with nothing else in
flight. It takes two events: the device sets the first and waits for the second; the host waits
for the first, resets it, samples, and sets the second; the device goes on and resets it.
-/
set_option autoImplicit false

namespace GpuProfiler

structure TrapEvents where
  deviceToHost : RawEvent
  hostToDevice : RawEvent
deriving DecidableEq, Repr

/-- A trap's two events, the time the device gets to settle, and the cycles completed. -/
structure Trap where
  events : TrapEvents
  settleMillis : UInt64
  cycles : Nat
deriving DecidableEq, Repr

namespace TrapEvents

def emit (events : TrapEvents) (buffer : RawBuffer) : Act Driver Unit := do
  Driver.commandSetEvent buffer events.deviceToHost
  Driver.commandWaitEvent buffer events.hostToDevice
  Driver.commandResetEvent buffer events.hostToDevice

end TrapEvents

namespace Trap

variable {σ : Type} [EventHost σ]

def create (timing : TrapTiming) : Act σ (Except Error Trap) := do
  match ← EventHost.createEvent with
  | .error error => pure (.error error)
  | .ok deviceToHost =>
    match ← EventHost.createEvent with
    | .error error =>
      EventHost.destroyEvent deviceToHost
      pure (.error error)
    | .ok hostToDevice => pure (.ok ⟨⟨deviceToHost, hostToDevice⟩, timing.settleMillis, 0⟩)

def destroy (trap : Trap) : Act σ Unit := do
  EventHost.destroyEvent trap.events.deviceToHost
  EventHost.destroyEvent trap.events.hostToDevice

-- Asks for an event until it is found set. A failing look counts as one that found nothing.
def await (event : RawEvent) : Nat → Act σ Unit
  | 0 => Act.halt .blocked
  | patience + 1 => do
    match ← EventHost.eventStatus event with
    | .ok .set => pure ()
    | .ok .unset => await event patience
    | .error error =>
      Act.note (.statusQueryFailed error)
      await event patience

-- Waits until the device is parked. There is no time limit.
def acquire (trap : Trap) : Act σ Unit := do
  await trap.events.deviceToHost (EventHost.patience (← Act.get) + 1)
  Act.noteFailure .trapResetFailed (← EventHost.resetEvent trap.events.deviceToHost)

def release (trap : Trap) : Act σ Unit := do
  Act.noteFailure .trapSignalFailed (← EventHost.setEvent trap.events.hostToDevice)

def cycle {α : Type} (trap : Trap) (inside : Act σ α) : Act σ (α × Trap) := do
  trap.acquire
  let answer ← inside
  trap.release
  let trap := { trap with cycles := trap.cycles + 1 }
  Act.note (.cycleComplete trap.cycles)
  pure (answer, trap)

omit [EventHost σ] in
def logText (trap : Trap) : String :=
  "TrapPair \x7b events: TrapEvents \x7b device_to_host: RawEvent(" ++ toString trap.events.deviceToHost
    ++ "), host_to_device: RawEvent(" ++ toString trap.events.hostToDevice ++ ") \x7d, cycles: "
    ++ toString trap.cycles ++ ", .. \x7d"

end Trap

end GpuProfiler
