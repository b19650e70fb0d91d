import GpuProfiler.Config
import GpuProfiler.Counter.Value
import GpuProfiler.Frame.Boundary
import GpuProfiler.Telemetry.Message

set_option autoImplicit false

namespace GpuProfiler

inductive LogLevel where
  | error
  | warn
  | info
  | debug
  | trace
deriving DecidableEq, Repr

namespace LogLevel

-- The more severe a level, the lower its rank.
def rank : LogLevel → Nat
  | .error => 0
  | .warn => 1
  | .info => 2
  | .debug => 3
  | .trace => 4

def name : LogLevel → String
  | .error => "ERROR"
  | .warn => "WARN"
  | .info => "INFO"
  | .debug => "DEBUG"
  | .trace => "TRACE"

end LogLevel

inductive WriteFailure where
  | nothingTaken
  | brokenPipe
  | notFlushed
deriving DecidableEq, Repr

namespace WriteFailure

def message : WriteFailure → String
  | .nothingTaken => "failed to write whole buffer"
  | .brokenPipe => "broken pipe"
  | .notFlushed => "other error"

end WriteFailure

inductive Note where
  | queueRegistered (raw : Nat) (family index : UInt32)
  | bufferAllocatedTwice (raw : Nat)
  | unbalancedPop (raw : Nat)
  | renderPassRefused
  | replaying (workload : Workload)
  | originUnknown
  | writeFailed (cause : WriteFailure)
  | notSent (message : Message) (error : Error)
  | frameOpened (frame : Nat)
  | frameWithoutSubmissions (frame : Nat)
  | frameAdvanced (transition : FrameTransition)
  | intercepting (count : Nat)
  | layerStarted (mode : FrameMode) (sampleWorkloads sampleFrames : Bool)
  | counterMissing (name : String)
  | countersActive (count : Nat)
  | sampleFailed (error : Error)
  | counterMistyped (name : String) (declared : CounterKind) (value : CounterValue)
  | counterNotRead (name : String) (error : Error)
  | statusQueryFailed (error : Error)
  | trapResetFailed (error : Error)
  | trapSignalFailed (error : Error)
  | cycleComplete (cycles : Nat)
  | trapUnavailable (error : Error)
  | profilingDecided (active : Bool)
  | replayed (records sampled : Nat)
  | waitIdleFailed (error : Error)
  | deviceDestroyed (cycles : Nat)
  | replayFailed (error : Error)
deriving DecidableEq, Repr

namespace Note

def level : Note → LogLevel
  | .replaying _ => .trace
  | .queueRegistered _ _ _ | .unbalancedPop _ | .writeFailed _ | .frameOpened _
  | .frameWithoutSubmissions _ | .frameAdvanced _ | .intercepting _ | .countersActive _
  | .cycleComplete _ | .replayed _ _ => .debug
  | .layerStarted _ _ _ | .profilingDecided _ | .deviceDestroyed _ => .info
  | .bufferAllocatedTwice _ | .renderPassRefused | .originUnknown | .notSent _ _ | .counterMissing _
  | .sampleFailed _ | .counterMistyped _ _ _ | .counterNotRead _ _ => .warn
  | .statusQueryFailed _ | .trapResetFailed _ | .trapSignalFailed _ | .trapUnavailable _
  | .waitIdleFailed _ | .replayFailed _ => .error

def hex (raw : Nat) : String := "0x" ++ String.ofList (Nat.toDigits 16 raw)

def text : Note → String
  | .queueRegistered raw family index =>
    "Tracker: queue " ++ hex raw ++ " (family " ++ toString family.toNat ++ ", index "
      ++ toString index.toNat ++ ")"
  | .bufferAllocatedTwice raw => "Tracker: command buffer " ++ hex raw ++ " allocated twice"
  | .unbalancedPop raw => "Tracker: unbalanced label pop on buffer " ++ hex raw
  | .renderPassRefused => "Tracker: render pass passed to record(), ignored"
  | .replaying workload => "Replay: " ++ workload.typeName
  | .originUnknown => "Replay: render pass ended without a known origin, not reported"
  | .writeFailed cause => "Endpoint: write failed: " ++ cause.message
  | .notSent message error => "Telemetry: " ++ message.typeName ++ " not sent: " ++ error.message
  | .frameOpened frame => "Frame: " ++ toString frame ++ " open"
  | .frameWithoutSubmissions frame => "Frame: " ++ toString frame ++ " closed without submissions"
  | .frameAdvanced transition =>
    "Frame: " ++ toString transition.closing ++ " -> " ++ toString transition.opening ++ " ("
      ++ transition.actions.logText ++ ")"
  | .intercepting count => "EntryPoints: " ++ toString count ++ " intercepted"
  | .layerStarted mode sampleWorkloads sampleFrames =>
    "Layer: frame mode " ++ mode.logText ++ ", workloads " ++ toString sampleWorkloads
      ++ ", frames " ++ toString sampleFrames
  | .counterMissing name => "Counters: '" ++ name ++ "' not provided by the backend"
  | .countersActive count => "Counters: " ++ toString count ++ " active"
  | .sampleFailed error => "Counters: sample failed: " ++ error.message
  | .counterMistyped name declared value =>
    "Counters: '" ++ name ++ "' declared " ++ declared.logText ++ ", read " ++ value.logText ++ "; dropped"
  | .counterNotRead name error => "Counters: '" ++ name ++ "' not read: " ++ error.message
  | .statusQueryFailed error => "Trap: event status query failed: " ++ error.message
  | .trapResetFailed error => "Trap: device-to-host reset failed: " ++ error.message
  | .trapSignalFailed error => "Trap: host-to-device signal failed: " ++ error.message
  | .cycleComplete cycles => "Trap: cycle " ++ toString cycles ++ " complete"
  | .trapUnavailable error =>
    "Device: trap events unavailable (" ++ error.message ++ "), profiling disabled"
  | .profilingDecided active => "Device: profiling " ++ if active then "active" else "inactive"
  | .replayed records sampled =>
    "Device: replayed " ++ toString records ++ " records, " ++ toString sampled ++ " sampled"
  | .waitIdleFailed error => "Device: wait idle failed: " ++ error.message
  | .deviceDestroyed cycles => "Layer: device destroyed after " ++ toString cycles ++ " trap cycles"
  | .replayFailed error => "Layer: replay failed: " ++ error.message

end Note

end GpuProfiler
