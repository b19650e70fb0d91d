import GpuProfiler.Labels
import GpuProfiler.Word

/-!
Units of device work, as they are recorded: render passes (whole, or in parts), dispatches,
transfers and acceleration structure operations. A size the recording call does not show is kept
as unknown and never estimated. On the wire an unknown size is -1 and a whole resource -2.
-/
set_option autoImplicit false

namespace GpuProfiler

inductive Count where
  | known (count : UInt64)
  | unknown
deriving DecidableEq, Repr

namespace Count

def wire : Count → Int
  | .known count => Word.signed count
  | .unknown => -1

-- Known counts are added up to the largest word; one unknown term makes the total unknown.
def add : Count → Count → Count
  | .known a, .known b => .known (Word.saturatingAdd a b)
  | _, _ => .unknown

def sum (counts : List Count) : Count := counts.foldl add (.known 0)

end Count

inductive ByteCount where
  | known (bytes : UInt64)
  | unknown
  | wholeResource
deriving DecidableEq, Repr

namespace ByteCount

-- The declared size that stands for everything from the offset to the end.
def wholeSize : UInt64 := UInt64.ofNat (Word.bound - 1)

def ofDeclared (size : UInt64) : ByteCount :=
  if size = wholeSize then .wholeResource else .known size

def wire : ByteCount → Int
  | .known bytes => Word.signed bytes
  | .unknown => -1
  | .wholeResource => -2

end ByteCount

abbrev RenderPassTag := Nat

structure TagSource where
  next : RenderPassTag
deriving DecidableEq, Repr

namespace TagSource

def first : TagSource := ⟨1⟩

instance : Inhabited TagSource := ⟨first⟩

def advance (tags : TagSource) : TagSource := ⟨tags.next + 1⟩

end TagSource

structure RenderPass where
  tag : RenderPassTag
  width : UInt32
  height : UInt32
  attachments : UInt32
  suspending : Bool
  drawCalls : UInt64
  trapped : Bool
deriving DecidableEq, Repr

-- A part that resumes a suspended render pass; `origin` where the recording knew it.
structure Continuation where
  origin : Option RenderPassTag
  suspending : Bool
  drawCalls : UInt64
  trapped : Bool
deriving DecidableEq, Repr

structure Dimensions where
  x : Count
  y : Count
  z : Count
deriving DecidableEq, Repr

namespace Dimensions

def direct (x y z : UInt32) : Dimensions :=
  ⟨.known x.toUInt64, .known y.toUInt64, .known z.toUInt64⟩

def indirect : Dimensions := ⟨.unknown, .unknown, .unknown⟩

end Dimensions

inductive ImageTransferKind where
  | clearColor
  | clearDepthStencil
  | copyImage
  | blitImage
  | resolveImage
  | copyBufferToImage
  | copyImageToBuffer
deriving DecidableEq, Repr

def ImageTransferKind.name : ImageTransferKind → String
  | .clearColor => "clear_color_image"
  | .clearDepthStencil => "clear_depth_stencil_image"
  | .copyImage => "copy_image"
  | .blitImage => "blit_image"
  | .resolveImage => "resolve_image"
  | .copyBufferToImage => "copy_buffer_to_image"
  | .copyImageToBuffer => "copy_image_to_buffer"

def ImageTransferKind.all : List ImageTransferKind :=
  [.clearColor, .clearDepthStencil, .copyImage, .blitImage, .resolveImage, .copyBufferToImage,
    .copyImageToBuffer]

inductive BufferTransferKind where
  | fillBuffer
  | updateBuffer
  | copyBuffer
deriving DecidableEq, Repr

def BufferTransferKind.name : BufferTransferKind → String
  | .fillBuffer => "fill_buffer"
  | .updateBuffer => "update_buffer"
  | .copyBuffer => "copy_buffer"

def BufferTransferKind.all : List BufferTransferKind := [.fillBuffer, .updateBuffer, .copyBuffer]

inductive StructureBuildKind where
  | build
  | update
deriving DecidableEq, Repr

def StructureBuildKind.name : StructureBuildKind → String
  | .build => "build"
  | .update => "update"

def StructureBuildKind.all : List StructureBuildKind := [.build, .update]

inductive StructureTransferKind where
  | structureToStructure
  | structureToMemory
  | memoryToStructure
deriving DecidableEq, Repr

def StructureTransferKind.name : StructureTransferKind → String
  | .structureToStructure => "struct_to_struct"
  | .structureToMemory => "struct_to_mem"
  | .memoryToStructure => "mem_to_struct"

def StructureTransferKind.all : List StructureTransferKind :=
  [.structureToStructure, .structureToMemory, .memoryToStructure]

inductive Workload where
  | renderPass (pass : RenderPass)
  | continuation (part : Continuation)
  | dispatch (groups : Dimensions)
  | traceRays (rays : Dimensions)
  | imageTransfer (kind : ImageTransferKind) (pixels : Count)
  | bufferTransfer (kind : BufferTransferKind) (bytes : ByteCount)
  | structureBuild (kind : StructureBuildKind) (primitives : Count)
  | structureTransfer (kind : StructureTransferKind) (bytes : ByteCount)
deriving DecidableEq, Repr

namespace Workload

def typeName : Workload → String
  | .renderPass _ => "renderpass"
  | .continuation _ => "renderpass_continuation"
  | .dispatch _ => "compute"
  | .traceRays _ => "tracerays"
  | .imageTransfer _ _ => "image_transfer"
  | .bufferTransfer _ _ => "buffer_transfer"
  | .structureBuild _ _ => "as_build"
  | .structureTransfer _ _ => "as_transfer"

-- Whether the device stops after this work. A render pass stops it once, where the pass ends.
def traps : Workload → Bool
  | .renderPass pass => pass.trapped
  | .continuation part => part.trapped
  | _ => true

end Workload

structure Record where
  workload : Workload
  labels : Labels
deriving DecidableEq, Repr

def Record.traps (record : Record) : Bool := record.workload.traps

abbrev Stream := List Record

end GpuProfiler
