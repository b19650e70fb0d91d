import GpuProfiler.Workload

set_option autoImplicit false

namespace GpuProfiler

inductive BufferLevel where
  | primary
  | secondary
deriving DecidableEq, Repr

structure RenderPassFlags where
  suspending : Bool
  resuming : Bool
deriving DecidableEq, Repr

-- Bit 0 suspends, bit 1 resumes; the other bits say nothing.
def RenderPassFlags.ofBits (bits : UInt32) : RenderPassFlags :=
  ⟨bits &&& 1 != 0, bits &&& 2 != 0⟩

structure RenderPassBegin where
  width : UInt32
  height : UInt32
  attachments : UInt32
  flags : RenderPassFlags
deriving DecidableEq, Repr

structure Extent where
  width : UInt32
  height : UInt32
  depth : UInt32
deriving DecidableEq, Repr

structure ImageRegion where
  extent : Extent
  layers : UInt32
deriving DecidableEq, Repr

structure StructureBuild where
  kind : StructureBuildKind
  primitives : UInt64
deriving DecidableEq, Repr

inductive Command where
  | beginDebugLabel (label : String)
  | endDebugLabel
  | beginRenderPass (start : RenderPassBegin)
  | endRenderPass
  | draw (vertices instances : UInt32)
  | drawIndirect (draws : UInt32)
  | dispatch (x y z : UInt32)
  | dispatchIndirect
  | traceRays (x y z : UInt32)
  | traceRaysIndirect
  | clearColorImage (extent : Option Extent) (layers : UInt32)
  | clearDepthStencilImage (extent : Option Extent) (layers : UInt32)
  | copyImage (regions : List ImageRegion)
  | blitImage (regions : List ImageRegion)
  | resolveImage (regions : List ImageRegion)
  | copyBufferToImage (regions : List ImageRegion)
  | copyImageToBuffer (regions : List ImageRegion)
  | fillBuffer (size : UInt64)
  | updateBuffer (size : UInt64)
  | copyBuffer (sizes : List UInt64)
  | buildStructures (builds : List StructureBuild)
  | buildStructuresIndirect (kind : StructureBuildKind)
  | copyStructure (kind : StructureTransferKind)
  | other (name : String)
deriving DecidableEq, Repr

namespace Extent

def texels (extent : Extent) : Except Halt UInt64 :=
  match Word.mul extent.width.toUInt64 extent.height.toUInt64 with
  | .ok area => Word.mul area extent.depth.toUInt64
  | .error halt => .error halt

-- Texels in all layers; an image without layers counts as one layer.
def pixels (extent : Extent) (layers : UInt32) : Except Halt UInt64 :=
  match extent.texels with
  | .ok texels => Word.mul texels (max layers 1).toUInt64
  | .error halt => .error halt

end Extent

namespace ImageRegion

def pixels (region : ImageRegion) : Except Halt UInt64 := region.extent.pixels region.layers

def eachPixels : List ImageRegion → Except Halt (List Count)
  | [] => .ok []
  | region :: rest =>
    match region.pixels with
    | .ok pixels => (eachPixels rest).map (Count.known pixels :: ·)
    | .error halt => .error halt

def totalPixels (regions : List ImageRegion) : Except Halt Count :=
  (eachPixels regions).map Count.sum

end ImageRegion

namespace StructureBuild

-- Builds count as updates only if there are some and all of them are.
def commonKind (builds : List StructureBuild) : StructureBuildKind :=
  if !builds.isEmpty && builds.all (·.kind == .update) then .update else .build

def totalPrimitives (builds : List StructureBuild) : Count :=
  Count.sum (builds.map fun build => .known build.primitives)

end StructureBuild

namespace Command

def name : Command → String
  | .beginDebugLabel _ => "begin_debug_label"
  | .endDebugLabel => "end_debug_label"
  | .beginRenderPass _ => "begin_render_pass"
  | .endRenderPass => "end_render_pass"
  | .draw _ _ => "draw"
  | .drawIndirect _ => "draw_indirect"
  | .dispatch _ _ _ => "dispatch"
  | .dispatchIndirect => "dispatch_indirect"
  | .traceRays _ _ _ => "trace_rays"
  | .traceRaysIndirect => "trace_rays_indirect"
  | .clearColorImage _ _ => "clear_color_image"
  | .clearDepthStencilImage _ _ => "clear_depth_stencil_image"
  | .copyImage _ => "copy_image"
  | .blitImage _ => "blit_image"
  | .resolveImage _ => "resolve_image"
  | .copyBufferToImage _ => "copy_buffer_to_image"
  | .copyImageToBuffer _ => "copy_image_to_buffer"
  | .fillBuffer _ => "fill_buffer"
  | .updateBuffer _ => "update_buffer"
  | .copyBuffer _ => "copy_buffer"
  | .buildStructures _ => "build_acceleration_structures"
  | .buildStructuresIndirect _ => "build_acceleration_structures_indirect"
  | .copyStructure _ => "copy_acceleration_structure"
  | .other name => name

def drawCount : Command → Option UInt64
  | .draw _ _ => some 1
  | .drawIndirect draws => some draws.toUInt64
  | _ => none

def clearPixels (extent : Option Extent) (layers : UInt32) : Except Halt Count :=
  match extent with
  | some extent => (extent.pixels layers).map Count.known
  | none => .ok .unknown

def imageWork (kind : ImageTransferKind) (pixels : Except Halt Count) : Except Halt (Option Workload) :=
  pixels.map fun count => some (.imageTransfer kind count)

def regionWork (kind : ImageTransferKind) (regions : List ImageRegion) :
    Except Halt (Option Workload) :=
  imageWork kind (ImageRegion.totalPixels regions)

-- The work a command stands for. Render passes take two commands and are not covered here.
def workload : Command → Except Halt (Option Workload)
  | .dispatch x y z => .ok (some (.dispatch (.direct x y z)))
  | .dispatchIndirect => .ok (some (.dispatch .indirect))
  | .traceRays x y z => .ok (some (.traceRays (.direct x y z)))
  | .traceRaysIndirect => .ok (some (.traceRays .indirect))
  | .clearColorImage extent layers => imageWork .clearColor (clearPixels extent layers)
  | .clearDepthStencilImage extent layers => imageWork .clearDepthStencil (clearPixels extent layers)
  | .copyImage regions => regionWork .copyImage regions
  | .blitImage regions => regionWork .blitImage regions
  | .resolveImage regions => regionWork .resolveImage regions
  | .copyBufferToImage regions => regionWork .copyBufferToImage regions
  | .copyImageToBuffer regions => regionWork .copyImageToBuffer regions
  | .fillBuffer size => .ok (some (.bufferTransfer .fillBuffer (.ofDeclared size)))
  | .updateBuffer size => .ok (some (.bufferTransfer .updateBuffer (.known size)))
  | .copyBuffer sizes =>
    .ok (some (.bufferTransfer .copyBuffer (.known (sizes.foldl Word.saturatingAdd 0))))
  | .buildStructures builds =>
    .ok (some (.structureBuild (StructureBuild.commonKind builds) (StructureBuild.totalPrimitives builds)))
  | .buildStructuresIndirect kind => .ok (some (.structureBuild kind .unknown))
  | .copyStructure kind => .ok (some (.structureTransfer kind .unknown))
  | .beginDebugLabel _ | .endDebugLabel | .beginRenderPass _ | .endRenderPass
  | .draw _ _ | .drawIndirect _ | .other _ => .ok none

end Command

end GpuProfiler
