import GpuProfiler.Counter.Session
import GpuProfiler.Replay
import GpuProfiler.Telemetry.Sender
import GpuProfiler.Trap

set_option autoImplicit false

namespace GpuProfiler

structure Sampler where
  driver : Driver
  trap : Trap
  session : CounterSession Backend
  sender : Sender ShowingEndpoint
  sampled : Nat
deriving DecidableEq, Repr

namespace Sampler

def driverPart : Part Sampler Driver := ⟨(·.driver), fun driver s => { s with driver := driver }⟩

def sessionPart : Part Sampler (CounterSession Backend) :=
  ⟨(·.session), fun session s => { s with session := session }⟩

def senderPart : Part Sampler (Sender ShowingEndpoint) :=
  ⟨(·.sender), fun sender s => { s with sender := sender }⟩

instance : EventHost Sampler := EventHost.ofPart driverPart

def cycle : Act Sampler (List Reading) := do
  let (latched, trap) ← (← Act.get).trap.cycle (Act.on sessionPart CounterSession.sampleNow)
  Act.modify fun s => { s with trap := trap, sampled := s.sampled + 1 }
  if latched then Act.on sessionPart CounterSession.readAll else pure []

def report (workload : Workload) (labels : Labels) (counters : List Reading) : Act Sampler Unit :=
  match Message.ofWorkload? workload labels counters with
  | some message => Act.on senderPart (Sender.emit message)
  | none => pure ()

def sample (workload : Workload) (labels : Labels) : Act Sampler Unit := do
  let counters ← cycle
  report workload labels counters

def completed (pass : RenderPass) : Workload :=
  .renderPass { pass with suspending := false, trapped := true }

-- Samples the end of a pass in parts. The device is parked there whether or not it is known which
-- pass it is; an unknown one is not reported.
def sampleContinuation (resumed : Option RenderPass) (labels : Labels) : Act Sampler Unit := do
  let counters ← cycle
  match resumed with
  | some pass => report (completed pass) labels counters
  | none => Act.note .originUnknown

def visit (visited : Visit) : Act Sampler Unit :=
  match visited.record.workload with
  | .renderPass pass =>
    if pass.trapped then sample (.renderPass pass) visited.record.labels else pure ()
  | .continuation part =>
    if part.trapped then sampleContinuation visited.resumed visited.record.labels else pure ()
  | other => sample other visited.record.labels

end Sampler

end GpuProfiler
