import GpuProfiler.Arena
import GpuProfiler.Recorder
import GpuProfiler.Replay

set_option autoImplicit false

namespace GpuProfiler

structure Queue where
  raw : RawQueue
  family : UInt32
  index : UInt32
  cursor : Cursor
  submits : Nat
  replayed : Nat
deriving DecidableEq, Repr

abbrev QueueHandle := Handle Queue
abbrev BufferHandle := Handle Recorder

namespace Queue

def new (raw : RawQueue) (family index : UInt32) : Queue := ⟨raw, family, index, .fresh, 0, 0⟩

-- A suspended pass must be resumed in the submission that suspended it, so each submission starts
-- with a fresh cursor.
def noteSubmit (queue : Queue) : Queue :=
  { queue with submits := queue.submits + 1, cursor := .fresh }

def runStream {σ : Type} (visitor : Visit → Act σ Unit) (queue : Queue) (stream : Stream) : Act σ Queue := do
  let cursor ← queue.cursor.run visitor stream
  pure { queue with cursor := cursor, replayed := queue.replayed + stream.length }

def runStreams {σ : Type} (visitor : Visit → Act σ Unit) (queue : Queue) : List Stream → Act σ Queue
  | [] => pure queue
  | stream :: rest => do
    let queue ← queue.runStream visitor stream
    runStreams visitor queue rest

end Queue

abbrev Lookup (α : Type) := List (Nat × Handle α)

namespace Lookup

variable {α : Type}

def find? (lookup : Lookup α) (raw : Nat) : Option (Handle α) :=
  match lookup with
  | [] => none
  | (key, handle) :: rest => if key = raw then some handle else Lookup.find? rest raw

def erase (lookup : Lookup α) (raw : Nat) : Lookup α := lookup.filter fun entry => entry.1 != raw

def insert (lookup : Lookup α) (raw : Nat) (handle : Handle α) : Lookup α :=
  (raw, handle) :: lookup.erase raw

theorem find_erase_here (lookup : Lookup α) (raw : Nat) : (lookup.erase raw).find? raw = none := by
  induction lookup with
  | nil => rfl
  | cons entry rest ih =>
    unfold Lookup.erase at ih ⊢
    by_cases same : entry.1 = raw <;> simp [same, Lookup.find?, ih]

theorem find_erase_elsewhere (lookup : Lookup α) (raw other : Nat) (different : other ≠ raw) :
    (lookup.erase raw).find? other = lookup.find? other := by
  induction lookup with
  | nil => rfl
  | cons entry rest ih =>
    obtain ⟨key, handle⟩ := entry
    unfold Lookup.erase at ih ⊢
    by_cases same : key = raw
    · subst same
      simp [Lookup.find?, ih, Ne.symm different]
    · simp [Lookup.find?, ih, same]

theorem find_insert_here (lookup : Lookup α) (raw : Nat) (handle : Handle α) :
    (lookup.insert raw handle).find? raw = some handle := by
  simp [Lookup.insert, Lookup.find?]

theorem find_insert_elsewhere (lookup : Lookup α) (raw other : Nat) (handle : Handle α)
    (different : other ≠ raw) : (lookup.insert raw handle).find? other = lookup.find? other := by
  simp [Lookup.insert, Lookup.find?, Ne.symm different, find_erase_elsewhere lookup raw other different]

end Lookup

structure Registry where
  queues : Arena Queue
  queueLookup : Lookup Queue
  buffers : Arena Recorder
  bufferLookup : Lookup Recorder
deriving DecidableEq, Repr

namespace Registry

def empty : Registry := ⟨.empty, [], .empty, []⟩

instance : Inhabited Registry := ⟨empty⟩

def findQueue (registry : Registry) (raw : RawQueue) : Option QueueHandle :=
  registry.queueLookup.find? raw

def findBuffer (registry : Registry) (raw : RawBuffer) : Option BufferHandle :=
  registry.bufferLookup.find? raw

def queue (registry : Registry) (handle : QueueHandle) : Except Error Queue :=
  match registry.queues.get? handle with
  | some queue => .ok queue
  | none => .error .invalidHandle

def buffer (registry : Registry) (handle : BufferHandle) : Except Error Recorder :=
  match registry.buffers.get? handle with
  | some recorder => .ok recorder
  | none => .error .invalidHandle

def setQueue (registry : Registry) (handle : QueueHandle) (queue : Queue) : Registry :=
  { registry with queues := registry.queues.set handle queue }

def setBuffer (registry : Registry) (handle : BufferHandle) (recorder : Recorder) : Registry :=
  { registry with buffers := registry.buffers.set handle recorder }

def streams (registry : Registry) : List BufferHandle → Except Error (List Stream)
  | [] => .ok []
  | handle :: rest =>
    match registry.buffer handle with
    | .error error => .error error
    | .ok recorder => (registry.streams rest).map (recorder.stream :: ·)

def raws (registry : Registry) : List BufferHandle → Except Error (List RawBuffer)
  | [] => .ok []
  | handle :: rest =>
    match registry.buffer handle with
    | .error error => .error error
    | .ok recorder => (registry.raws rest).map (recorder.raw :: ·)

-- A queue asked for again keeps its handle.
def registerQueue (raw : RawQueue) (family index : UInt32) : Act Registry QueueHandle := do
  let registry ← Act.get
  match registry.findQueue raw with
  | some handle => pure handle
  | none =>
    let (handle, queues) := registry.queues.insert (.new raw family index)
    Act.set { registry with queues := queues, queueLookup := registry.queueLookup.insert raw handle }
    Act.note (.queueRegistered raw family index)
    pure handle

def dropNamesake (raw : RawBuffer) : Act Registry Unit := do
  let registry ← Act.get
  match registry.findBuffer raw with
  | none => pure ()
  | some stale =>
    Act.note (.bufferAllocatedTwice raw)
    Act.set
      { registry with
        buffers := (registry.buffers.remove stale).2
        bufferLookup := registry.bufferLookup.erase raw }

-- Keeps a new buffer. One that is still kept under the same number is dropped.
def allocate (raw : RawBuffer) (level : BufferLevel) : Act Registry BufferHandle := do
  dropNamesake raw
  let registry ← Act.get
  let (handle, buffers) := registry.buffers.insert (.new raw level)
  Act.set { registry with buffers := buffers, bufferLookup := registry.bufferLookup.insert raw handle }
  pure handle

def free (handle : BufferHandle) : Act Registry (Except Error Recorder) := do
  let registry ← Act.get
  match registry.buffers.remove handle with
  | (some recorder, buffers) =>
    Act.set
      { registry with buffers := buffers, bufferLookup := registry.bufferLookup.erase recorder.raw }
    pure (.ok recorder)
  | (none, _) => pure (.error .invalidHandle)

def execute (primary : BufferHandle) (secondaries : List BufferHandle) : Act Registry (Except Error Unit) := do
  let registry ← Act.get
  match registry.streams secondaries with
  | .error error => pure (.error error)
  | .ok streams =>
    match registry.buffer primary with
    | .error error => pure (.error error)
    | .ok recorder =>
      Act.set (registry.setBuffer primary (recorder.append streams.flatten))
      pure (.ok ())

def hasTraps (registry : Registry) (buffers : List BufferHandle) : Bool :=
  buffers.any fun handle =>
    match registry.buffers.get? handle with
    | some recorder => recorder.stream.any Record.traps
    | none => false

def replay {σ : Type} (visitor : Visit → Act σ Unit) (queue : QueueHandle) (buffers : List BufferHandle) :
    Act (Registry × σ) (Except Error Nat) := do
  let registry := (← Act.get).1
  match registry.queue queue with
  | .error error => pure (.error error)
  | .ok tracked =>
    match registry.streams buffers with
    | .error error => pure (.error error)
    | .ok streams =>
      let done ← Act.on .second (tracked.noteSubmit.runStreams visitor streams)
      Act.modify fun s => (s.1.setQueue queue done, s.2)
      pure (.ok streams.flatten.length)

end Registry

structure Tracking where
  registry : Registry
  tags : TagSource
deriving DecidableEq, Repr

namespace Tracking

def registryPart : Part Tracking Registry := ⟨(·.registry), fun registry s => { s with registry := registry }⟩

def withBuffer {α : Type} (handle : BufferHandle) (act : Act Recording α) :
    Act Tracking (Except Error (RawBuffer × α)) := do
  let s ← Act.get
  match s.registry.buffer handle with
  | .error error => pure (.error error)
  | .ok recorder =>
    let buffer : Part Tracking Recording :=
      ⟨fun s => ⟨recorder, s.tags⟩,
        fun done s => ⟨s.registry.setBuffer handle done.recorder, done.tags⟩⟩
    let answer ← Act.on buffer act
    pure (.ok (recorder.raw, answer))

end Tracking

end GpuProfiler
