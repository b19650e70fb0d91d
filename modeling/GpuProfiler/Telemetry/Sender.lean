import GpuProfiler.Telemetry.Endpoint

set_option autoImplicit false

namespace GpuProfiler

structure Sender (ε : Type) where
  endpoint : ε
  sent : Nat
  dropped : Nat
deriving DecidableEq, Repr

namespace Sender

variable {ε : Type}

def new (endpoint : ε) : Sender ε := ⟨endpoint, 0, 0⟩

def endpointPart : Part (Sender ε) ε := ⟨(·.endpoint), fun endpoint s => { s with endpoint := endpoint }⟩

def emit [Endpoint ε] (message : Message) : Act (Sender ε) Unit := do
  match ← Act.on endpointPart (Endpoint.send message) with
  | .ok () => Act.modify fun s => { s with sent := s.sent + 1 }
  | .error error =>
    Act.note (.notSent message error)
    Act.modify fun s => { s with dropped := s.dropped + 1 }

def logText (sender : Sender ε) : String :=
  "Telemetry \x7b stats: TelemetryStats \x7b sent: " ++ toString sender.sent ++ ", dropped: "
    ++ toString sender.dropped ++ " \x7d, .. \x7d"

end Sender

end GpuProfiler
