import GpuProfiler.Act

/-!
What is known of one command buffer while the application records into it: the workloads to be
sampled when the buffer runs, the open labels, the open render pass part and a few counts.

A render pass may be split into parts. A part that ends suspended is resumed by a later part, in
this buffer or in another one. A part that resumes one of this buffer follows the decision made
for that one; every other part decides from the capture mode at its begin. The part that ends the
pass is the one the device stops after, and its record says so.
-/
set_option autoImplicit false

namespace GpuProfiler

-- Off: nothing is recorded. Track: only parts of split render passes are, so that a part recorded
-- later finds its origin. Capture: workloads are recorded and the device stops after them.
inductive CaptureMode where
  | off
  | track
  | capture
deriving DecidableEq, Repr

def CaptureMode.name : CaptureMode → String
  | .off => "off"
  | .track => "track"
  | .capture => "capture"

def CaptureMode.all : List CaptureMode := [.off, .track, .capture]

def CaptureMode.captures (mode : CaptureMode) : Bool := mode == .capture

inductive RecordingState where
  | initial
  | recording
  | executable
deriving DecidableEq, Repr

def RecordingState.name : RecordingState → String
  | .initial => "initial"
  | .recording => "recording"
  | .executable => "executable"

-- Counts since the last begin or reset, whether or not anything was captured.
structure RecorderStats where
  renderPasses : Nat
  drawCalls : UInt64
  dispatches : Nat
  traceRays : Nat
  imageTransfers : Nat
  bufferTransfers : Nat
  structureOperations : Nat
deriving DecidableEq, Repr

def RecorderStats.zero : RecorderStats := ⟨0, 0, 0, 0, 0, 0, 0⟩

-- The open part: where its record stands, if one was kept, and whose part it is.
structure ActivePass where
  position : Option Nat
  tag : Option RenderPassTag
  captured : Bool
  suspending : Bool
  drawCalls : UInt64
deriving DecidableEq, Repr

structure SuspendedPass where
  tag : Option RenderPassTag
  captured : Bool
deriving DecidableEq, Repr

structure RenderPassEnd where
  suspending : Bool
  needsTrap : Bool
deriving DecidableEq, Repr

structure Recorder where
  raw : RawBuffer
  level : BufferLevel
  state : RecordingState
  stream : Stream
  labels : LabelStack
  active : Option ActivePass
  suspended : Option SuspendedPass
  stats : RecorderStats
deriving DecidableEq, Repr

namespace Workload

def complete (workload : Workload) (drawCalls : UInt64) (trapped : Bool) : Workload :=
  match workload with
  | .renderPass pass => .renderPass { pass with drawCalls := drawCalls, trapped := trapped }
  | .continuation part => .continuation { part with drawCalls := drawCalls, trapped := trapped }
  | other => other

end Workload

namespace RecorderStats

def count (stats : RecorderStats) : Workload → RecorderStats
  | .dispatch _ => { stats with dispatches := stats.dispatches + 1 }
  | .traceRays _ => { stats with traceRays := stats.traceRays + 1 }
  | .imageTransfer _ _ => { stats with imageTransfers := stats.imageTransfers + 1 }
  | .bufferTransfer _ _ => { stats with bufferTransfers := stats.bufferTransfers + 1 }
  | .structureBuild _ _ | .structureTransfer _ _ =>
    { stats with structureOperations := stats.structureOperations + 1 }
  | .renderPass _ | .continuation _ => stats

end RecorderStats

namespace Recorder

def new (raw : RawBuffer) (level : BufferLevel) : Recorder :=
  ⟨raw, level, .initial, [], .empty, none, none, .zero⟩

def reset (recorder : Recorder) : Recorder := new recorder.raw recorder.level

def start (recorder : Recorder) : Recorder := { recorder.reset with state := .recording }

def finish (recorder : Recorder) : Recorder := { recorder with state := .executable }

def pushLabel (recorder : Recorder) (label : String) : Recorder :=
  { recorder with labels := recorder.labels.push label }

def popLabel (recorder : Recorder) : Recorder := { recorder with labels := recorder.labels.pop }

def push (recorder : Recorder) (workload : Workload) : Recorder :=
  { recorder with stream := recorder.stream ++ [⟨workload, recorder.labels.snapshot⟩] }

-- Opens a part that was decided on, and keeps a record of it if it is to be captured, or if it is a
-- part of a split pass and anything is tracked at all.
def openPass (recorder : Recorder) (flags : RenderPassFlags) (mode : CaptureMode) (captured : Bool)
    (tag : Option RenderPassTag) (workload : Workload) : Recorder :=
  let kept := captured || ((flags.suspending || flags.resuming) && mode != .off)
  let opened := if kept then recorder.push workload else recorder
  { opened with
    active := some ⟨if kept then some recorder.stream.length else none, tag, captured, flags.suspending, 0⟩ }

def beginPass (recorder : Recorder) (tag : RenderPassTag) (begun : RenderPassBegin)
    (mode : CaptureMode) : Recorder :=
  { recorder with stats := { recorder.stats with renderPasses := recorder.stats.renderPasses + 1 } }.openPass
    begun.flags mode mode.captures (some tag)
    (.renderPass ⟨tag, begun.width, begun.height, begun.attachments, begun.flags.suspending, 0, false⟩)

def resumePass (recorder : Recorder) (begun : RenderPassBegin) (mode : CaptureMode) : Recorder :=
  let origin := recorder.suspended.bind (·.tag)
  let captured :=
    match recorder.suspended with
    | some suspended => suspended.captured
    | none => mode.captures
  { recorder with suspended := none }.openPass begun.flags mode captured origin
    (.continuation ⟨origin, begun.flags.suspending, 0, false⟩)

def endPass (recorder : Recorder) : RenderPassEnd × Recorder :=
  match recorder.active with
  | none => (⟨false, false⟩, recorder)
  | some active =>
    let needsTrap := !active.suspending && active.captured
    let stream :=
      match active.position with
      | some position =>
        recorder.stream.modify position fun record =>
          { record with workload := record.workload.complete active.drawCalls needsTrap }
      | none => recorder.stream
    (⟨active.suspending, needsTrap⟩,
      { recorder with
        stream := stream
        active := none
        suspended := if active.suspending then some ⟨active.tag, active.captured⟩ else none })

def draw (recorder : Recorder) (count : UInt64) : Except Halt Recorder :=
  match Word.add recorder.stats.drawCalls count with
  | .error halt => .error halt
  | .ok total =>
    let counted := { recorder with stats := { recorder.stats with drawCalls := total } }
    match recorder.active with
    | none => .ok counted
    | some active =>
      (Word.add active.drawCalls count).map fun drawn =>
        { counted with active := some { active with drawCalls := drawn } }

def isPass : Workload → Bool
  | .renderPass _ | .continuation _ => true
  | _ => false

-- Counts a workload, and appends it if it is to be captured; render pass parts are refused. The
-- answer is whether it was appended.
def record (recorder : Recorder) (workload : Workload) (capture : Bool) : Bool × Recorder :=
  if isPass workload then (false, recorder)
  else
    let counted := { recorder with stats := recorder.stats.count workload }
    if capture then (true, counted.push workload) else (false, counted)

def append (recorder : Recorder) (records : Stream) : Recorder :=
  { recorder with stream := recorder.stream ++ records }

end Recorder

structure Recording where
  recorder : Recorder
  tags : TagSource
deriving DecidableEq, Repr

inductive RecorderCall where
  | start
  | finish
  | reset
  | pushLabel (label : String)
  | popLabel
  | beginPass (begun : RenderPassBegin) (mode : CaptureMode)
  | endPass
  | draw (count : UInt64)
  | record (workload : Workload) (capture : Bool)
  | append (records : Stream)
deriving DecidableEq, Repr

inductive RecorderReply where
  | done
  | depth (labels : Nat)
  | tag (tag : Option RenderPassTag)
  | ended (how : RenderPassEnd)
  | drawCalls (total : UInt64)
  | appended (appended : Bool)
deriving DecidableEq, Repr

namespace Recording

def update (change : Recorder → Recorder) : Act Recording Unit :=
  Act.modify fun s => { s with recorder := change s.recorder }

def popLabel : Act Recording Unit := do
  let s ← Act.get
  Act.noteIf (s.recorder.labels.depth == 0) (.unbalancedPop s.recorder.raw)
  update Recorder.popLabel

def beginPass (begun : RenderPassBegin) (mode : CaptureMode) : Act Recording (Option RenderPassTag) := do
  let s ← Act.get
  if begun.flags.resuming then
    Act.set { s with recorder := s.recorder.resumePass begun mode }
    pure (s.recorder.suspended.bind (·.tag))
  else
    Act.set ⟨s.recorder.beginPass s.tags.next begun mode, s.tags.advance⟩
    pure (some s.tags.next)

def endPass : Act Recording RenderPassEnd := do
  let s ← Act.get
  Act.set { s with recorder := s.recorder.endPass.2 }
  pure s.recorder.endPass.1

def draw (count : UInt64) : Act Recording Unit := do
  let s ← Act.get
  let drawn ← Act.check (s.recorder.draw count)
  Act.set { s with recorder := drawn }

def record (workload : Workload) (capture : Bool) : Act Recording Bool := do
  let s ← Act.get
  Act.noteIf (Recorder.isPass workload) .renderPassRefused
  Act.set { s with recorder := (s.recorder.record workload capture).2 }
  pure (s.recorder.record workload capture).1

def perform : RecorderCall → Act Recording RecorderReply
  | .start => do update Recorder.start; pure .done
  | .finish => do update Recorder.finish; pure .done
  | .reset => do update Recorder.reset; pure .done
  | .pushLabel label => do
    update (·.pushLabel label)
    return .depth (← Act.get).recorder.labels.depth
  | .popLabel => do
    popLabel
    return .depth (← Act.get).recorder.labels.depth
  | .beginPass begun mode => return .tag (← beginPass begun mode)
  | .endPass => return .ended (← endPass)
  | .draw count => do
    draw count
    return .drawCalls (← Act.get).recorder.stats.drawCalls
  | .record workload capture => return .appended (← record workload capture)
  | .append records => do update (·.append records); pure .done

def performAll : List RecorderCall → Act Recording (List RecorderReply)
  | [] => pure []
  | call :: rest => do
    let reply ← perform call
    let replies ← performAll rest
    pure (reply :: replies)

def command (recorded : Command) (mode : CaptureMode) : Act Recording Bool :=
  match recorded with
  | .beginDebugLabel label => do
    update (·.pushLabel label)
    pure false
  | .endDebugLabel => do
    popLabel
    pure false
  | .beginRenderPass begun => do
    let _ ← beginPass begun mode
    pure false
  | .endRenderPass => return (← endPass).needsTrap
  | other =>
    match other.drawCount with
    | some count => do
      draw count
      pure false
    | none => do
      match ← Act.check other.workload with
      | some workload => record workload mode.captures
      | none => pure false

end Recording

end GpuProfiler
