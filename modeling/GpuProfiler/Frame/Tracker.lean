import GpuProfiler.Act

set_option autoImplicit false

namespace GpuProfiler

inductive FramePhase where
  | idle
  | opened
deriving DecidableEq, Repr

structure FrameTracker where
  index : Nat
  ofInterest : Bool
  phase : FramePhase
deriving DecidableEq, Repr

namespace FramePhase

def name : FramePhase → String
  | .idle => "idle"
  | .opened => "open"

def logText : FramePhase → String
  | .idle => "Idle"
  | .opened => "FrameOpen"

end FramePhase

namespace FrameTracker

def start (config : Config) : FrameTracker := ⟨0, config.isOfInterest 0, .idle⟩

def startActions (config : Config) : BoundaryActions :=
  let ofInterest := config.isOfInterest 0
  ⟨false, ofInterest && config.sampleWorkloads, false, ofInterest && config.samplesAny⟩

def captures (tracker : FrameTracker) (config : Config) : Bool :=
  tracker.ofInterest && config.sampleWorkloads

def noteSubmit : Act FrameTracker Unit := do
  let tracker ← Act.get
  if tracker.phase = .idle then
    Act.note (.frameOpened tracker.index)
    Act.set { tracker with phase := .opened }

def transition (tracker : FrameTracker) (config : Config) : FrameTransition :=
  let next := config.isOfInterest (tracker.index + 1)
  ⟨tracker.index, tracker.index + 1,
    tracker.ofInterest && config.sampleWorkloads, next && config.sampleWorkloads,
    tracker.ofInterest && config.sampleFrames, next && config.samplesAny⟩

def boundary (config : Config) : Act FrameTracker FrameTransition := do
  let tracker ← Act.get
  Act.noteIf (tracker.phase == .idle) (.frameWithoutSubmissions tracker.index)
  let transition := tracker.transition config
  Act.set ⟨transition.opening, config.isOfInterest transition.opening, .idle⟩
  Act.note (.frameAdvanced transition)
  pure transition

def logText (tracker : FrameTracker) : String :=
  "FrameTracker \x7b index: " ++ toString tracker.index ++ ", of_interest: "
    ++ toString tracker.ofInterest ++ ", phase: " ++ tracker.phase.logText ++ " \x7d"

end FrameTracker

end GpuProfiler
