import GpuProfiler.Counter.Value
import GpuProfiler.Json.Value
import GpuProfiler.Workload

set_option autoImplicit false

namespace GpuProfiler

inductive Metadata where
  | renderPass (tag : RenderPassTag) (width height attachments : UInt32) (drawCalls : UInt64)
  | dispatch (x y z : Int)
  | traceRays (x y z : Int)
  | imageTransfer (kind : ImageTransferKind) (pixels : Int)
  | bufferTransfer (kind : BufferTransferKind) (bytes : Int)
  | structureBuild (kind : StructureBuildKind) (primitives : Int)
  | structureTransfer (kind : StructureTransferKind) (bytes : Int)
deriving DecidableEq, Repr

inductive Message where
  | startFrame (frame : Nat)
  | endFrame (frame : Nat)
  | frameCounters (frame : Nat) (counters : List Reading)
  | workload (labels : Labels) (counters : List Reading) (metadata : Metadata)
deriving DecidableEq, Repr

namespace Metadata

def ofWorkload? : Workload → Option Metadata
  | .renderPass pass =>
    some (.renderPass pass.tag pass.width pass.height pass.attachments pass.drawCalls)
  | .continuation _ => none
  | .dispatch groups => some (.dispatch groups.x.wire groups.y.wire groups.z.wire)
  | .traceRays rays => some (.traceRays rays.x.wire rays.y.wire rays.z.wire)
  | .imageTransfer kind pixels => some (.imageTransfer kind pixels.wire)
  | .bufferTransfer kind bytes => some (.bufferTransfer kind bytes.wire)
  | .structureBuild kind primitives => some (.structureBuild kind primitives.wire)
  | .structureTransfer kind bytes => some (.structureTransfer kind bytes.wire)

def typeName : Metadata → String
  | .renderPass _ _ _ _ _ => "renderpass"
  | .dispatch _ _ _ => "compute"
  | .traceRays _ _ _ => "tracerays"
  | .imageTransfer _ _ => "image_transfer"
  | .bufferTransfer _ _ => "buffer_transfer"
  | .structureBuild _ _ => "as_build"
  | .structureTransfer _ _ => "as_transfer"

def members : Metadata → List (String × Json)
  | .renderPass tag width height attachments drawCalls =>
    [("tid", .nat tag), ("width", .nat width.toNat), ("height", .nat height.toNat),
      ("attachments", .nat attachments.toNat), ("draw_calls", .nat drawCalls.toNat)]
  | .dispatch x y z | .traceRays x y z => [("x", .int x), ("y", .int y), ("z", .int z)]
  | .imageTransfer kind pixels => [("subtype", .text kind.name), ("pixels", .int pixels)]
  | .bufferTransfer kind bytes => [("subtype", .text kind.name), ("bytes", .int bytes)]
  | .structureBuild kind primitives => [("subtype", .text kind.name), ("primitives", .int primitives)]
  | .structureTransfer kind bytes => [("subtype", .text kind.name), ("bytes", .int bytes)]

end Metadata

-- A number that is not finite has no JSON text and is written as null.
def CounterValue.json : CounterValue → Json
  | .integer value => .nat value.toNat
  | .float value => if value.isFinite then .number (DecimalLayout.json.numeral value) else .null

def Reading.json (reading : Reading) : Json := .ofMembers [(reading.name, reading.value.json)]

namespace Message

def ofWorkload? (workload : Workload) (labels : Labels) (counters : List Reading) : Option Message :=
  (Metadata.ofWorkload? workload).map fun metadata => .workload labels counters metadata

def typeName : Message → String
  | .startFrame _ => "start_frame"
  | .endFrame _ => "end_frame"
  | .frameCounters _ _ => "frame"
  | .workload _ _ metadata => metadata.typeName

def json (message : Message) : Json :=
  .ofMembers (("type", .text message.typeName) ::
    match message with
    | .startFrame frame | .endFrame frame => [("frame", .nat frame)]
    | .frameCounters frame counters => [("frame", .nat frame), ("counters", .array (counters.map Reading.json))]
    | .workload labels counters metadata =>
      ("labels", .array (labels.map Json.text)) :: ("counters", .array (counters.map Reading.json)) ::
        metadata.members)

def text (message : Message) : String := message.json.render

def bytes (message : Message) : List UInt8 := message.text.toUTF8.toList

end Message

end GpuProfiler
