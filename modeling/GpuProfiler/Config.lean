import GpuProfiler.Error
import GpuProfiler.Json.Value

set_option autoImplicit false

namespace GpuProfiler

inductive FrameMode where
  | disabled
  | frameList
  | periodic
deriving DecidableEq, Repr

namespace FrameMode

def name : FrameMode → String
  | .disabled => "disabled"
  | .frameList => "frame_list"
  | .periodic => "periodic"

def logText : FrameMode → String
  | .disabled => "Disabled"
  | .frameList => "FrameList"
  | .periodic => "Periodic"

def ofName? (name : String) : Option FrameMode :=
  [.disabled, .frameList, .periodic].find? fun mode => mode.name == name

end FrameMode

structure TrapTiming where
  pollMicros : UInt64
  settleMillis : UInt64
deriving DecidableEq, Repr

namespace TrapTiming

def default : TrapTiming := ⟨250, 5⟩

def pollNanos (timing : TrapTiming) : Nat := timing.pollMicros.toNat * 1000

def settleNanos (timing : TrapTiming) : Nat := timing.settleMillis.toNat * 1000000

def members (timing : TrapTiming) : List (String × Json) := [
  ("poll_interval_us", .nat timing.pollMicros.toNat),
  ("settle_delay_ms", .nat timing.settleMillis.toNat)]

def json (timing : TrapTiming) : Json := .ofMembers timing.members

end TrapTiming

-- An empty list of counters asks for all of them.
structure Config where
  mode : FrameMode
  frameList : List UInt64
  periodicMinFrame : UInt64
  periodicFrame : UInt64
  sampleWorkloads : Bool
  sampleFrames : Bool
  trap : TrapTiming
  counters : List String
deriving DecidableEq, Repr

namespace Config

def default : Config where
  mode := .disabled
  frameList := []
  periodicMinFrame := 0
  periodicFrame := 600
  sampleWorkloads := true
  sampleFrames := false
  trap := .default
  counters := []

instance : Inhabited Config := ⟨default⟩

def isOfInterest (config : Config) (frame : Nat) : Bool :=
  match config.mode with
  | .disabled => false
  | .frameList => config.frameList.any (·.toNat == frame)
  | .periodic =>
    config.periodicFrame != 0 && decide (config.periodicMinFrame.toNat ≤ frame)
      && (frame - config.periodicMinFrame.toNat) % config.periodicFrame.toNat == 0

def samplesAny (config : Config) : Bool := config.sampleWorkloads || config.sampleFrames

def isActive (config : Config) : Bool := config.mode != .disabled && config.samplesAny

-- A period of no frames is no period.
def validate (config : Config) : Except Error Unit :=
  if config.mode = .periodic ∧ config.periodicFrame = 0 then .error .configInvalid else .ok ()

def withFrameList (config : Config) (frames : List UInt64) : Config :=
  { config with mode := .frameList, frameList := frames }

def withPeriodic (config : Config) (minFrame period : UInt64) : Config :=
  { config with mode := .periodic, periodicMinFrame := minFrame, periodicFrame := period }

def withSampleWorkloads (config : Config) (enabled : Bool) : Config :=
  { config with sampleWorkloads := enabled }

def withSampleFrames (config : Config) (enabled : Bool) : Config :=
  { config with sampleFrames := enabled }

-- Times in nanoseconds; a time too long for its field keeps the low word.
def withTrapTiming (config : Config) (pollNanos settleNanos : Nat) : Config :=
  { config with trap := ⟨UInt64.ofNat (pollNanos / 1000), UInt64.ofNat (settleNanos / 1000000)⟩ }

def withCounters (config : Config) (names : List String) : Config :=
  { config with counters := names }

def members (config : Config) : List (String × Json) := [
  ("frame_mode", .text config.mode.name),
  ("frame_list", .array (config.frameList.map fun frame => .nat frame.toNat)),
  ("periodic_min_frame", .nat config.periodicMinFrame.toNat),
  ("periodic_frame", .nat config.periodicFrame.toNat),
  ("sample_workloads", .bool config.sampleWorkloads),
  ("sample_frames", .bool config.sampleFrames),
  ("trap", config.trap.json),
  ("counters", .array (config.counters.map Json.text))]

def json (config : Config) : Json := .ofMembers config.members

end Config

end GpuProfiler
