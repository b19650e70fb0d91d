import GpuProfiler.Act

set_option autoImplicit false

namespace GpuProfiler

inductive Interception where
  | layer
  | passthrough
deriving DecidableEq, Repr

def Interception.name : Interception → String
  | .layer => "layer"
  | .passthrough => "passthrough"

structure EntryPointTable where
  entries : List (String × Interception)
deriving DecidableEq, Repr

namespace EntryPointTable

-- Always routed through the layer, which follows the lifetime of devices.
def lifecycle : List String := ["vkCreateDevice", "vkDestroyDevice", "vkGetDeviceQueue"]

def profiling : List String := [
  "vkAllocateCommandBuffers",
  "vkFreeCommandBuffers",
  "vkBeginCommandBuffer",
  "vkEndCommandBuffer",
  "vkResetCommandBuffer",
  "vkCmdBeginDebugUtilsLabelEXT",
  "vkCmdEndDebugUtilsLabelEXT",
  "vkCmdBeginRenderPass",
  "vkCmdBeginRenderPass2",
  "vkCmdBeginRendering",
  "vkCmdEndRenderPass",
  "vkCmdEndRenderPass2",
  "vkCmdEndRendering",
  "vkCmdDraw",
  "vkCmdDrawIndexed",
  "vkCmdDrawIndirect",
  "vkCmdDrawIndexedIndirect",
  "vkCmdDispatch",
  "vkCmdDispatchBase",
  "vkCmdDispatchIndirect",
  "vkCmdTraceRaysKHR",
  "vkCmdTraceRaysIndirectKHR",
  "vkCmdClearColorImage",
  "vkCmdClearDepthStencilImage",
  "vkCmdCopyImage",
  "vkCmdBlitImage",
  "vkCmdResolveImage",
  "vkCmdCopyBufferToImage",
  "vkCmdCopyImageToBuffer",
  "vkCmdFillBuffer",
  "vkCmdUpdateBuffer",
  "vkCmdCopyBuffer",
  "vkCmdBuildAccelerationStructuresKHR",
  "vkCmdBuildAccelerationStructuresIndirectKHR",
  "vkCmdCopyAccelerationStructureKHR",
  "vkCmdCopyAccelerationStructureToMemoryKHR",
  "vkCmdCopyMemoryToAccelerationStructureKHR",
  "vkCmdExecuteCommands",
  "vkQueueSubmit",
  "vkQueueSubmit2",
  "vkQueuePresentKHR"]

def empty : EntryPointTable := ⟨[]⟩

def register (table : EntryPointTable) (name : String) (interception : Interception) : EntryPointTable :=
  ⟨table.entries.filter (·.1 != name) ++ [(name, interception)]⟩

def registerAll (table : EntryPointTable) (names : List String) : EntryPointTable :=
  names.foldl (fun table name => table.register name .layer) table

-- Recording and submission stay with the driver where nothing can be sampled.
def forConfig (config : Config) : EntryPointTable :=
  let table := empty.registerAll lifecycle
  if config.isActive then table.registerAll profiling else table

def resolve (table : EntryPointTable) (name : String) : Interception :=
  (table.entries.lookup name).getD .passthrough

def intercepted (table : EntryPointTable) : List String :=
  ((table.entries.filter (·.2 == .layer)).map (·.1)).mergeSort fun a b => a ≤ b

def size (table : EntryPointTable) : Nat := table.entries.countP (·.2 == .layer)

def isEmpty (table : EntryPointTable) : Bool := table.size == 0

end EntryPointTable

end GpuProfiler
