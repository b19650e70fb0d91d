import GpuProfiler.Proofs.Json.Decoded
import GpuProfiler.Telemetry.Message

set_option autoImplicit false

namespace GpuProfiler

namespace Reading

def ofJson? : Json → Option Reading
  | .object [(some name, value)] => value.word?.map fun count => ⟨name, .integer count⟩
  | _ => none

theorem of_json_json {reading : Reading} {count : UInt64} (integer : reading.value = .integer count) :
    ofJson? reading.json = some reading := by
  obtain ⟨name, value⟩ := reading
  cases integer
  exact congrArg (Option.map _) (Json.word_read count)

end Reading

namespace Metadata

open Json

def extent? (shape : Int → Int → Int → Metadata) (members : List (Option String × Json)) : Option Metadata :=
  match justMembers? ["x", "y", "z"] members with
  | some [x, y, z] => do return shape (← x.int?) (← y.int?) (← z.int?)
  | _ => none

def sized? {κ : Type} (name : κ → String) (choices : List κ) (amount : String) (shape : κ → Int → Metadata)
    (members : List (Option String × Json)) : Option Metadata :=
  match justMembers? ["subtype", amount] members with
  | some [subtype, size] => do return shape (← subtype.named? name choices) (← size.int?)
  | _ => none

def pass? (members : List (Option String × Json)) : Option Metadata :=
  match justMembers? ["tid", "width", "height", "attachments", "draw_calls"] members with
  | some [tag, width, height, attachments, draws] => do
    return .renderPass (← tag.nat?) (← width.halfWord?) (← height.halfWord?) (← attachments.halfWord?) (← draws.word?)
  | _ => none

def ofMembers? (type : String) : List (Option String × Json) → Option Metadata :=
  if type = "renderpass" then pass?
  else if type = "compute" then extent? .dispatch
  else if type = "tracerays" then extent? .traceRays
  else if type = "image_transfer" then sized? ImageTransferKind.name ImageTransferKind.all "pixels" .imageTransfer
  else if type = "buffer_transfer" then sized? BufferTransferKind.name BufferTransferKind.all "bytes" .bufferTransfer
  else if type = "as_build" then sized? StructureBuildKind.name StructureBuildKind.all "primitives" .structureBuild
  else if type = "as_transfer" then sized? StructureTransferKind.name StructureTransferKind.all "bytes" .structureTransfer
  else fun _ => none

theorem extent_read (shape : Int → Int → Int → Metadata) (x y z : Int) :
    extent? shape [(some "x", .int x), (some "y", .int y), (some "z", .int z)] = some (shape x y z) := by
  simp [extent?, justMembers?, takeMember?]

theorem sized_read {κ : Type} {name : κ → String} {choices : List κ} {kind : κ} (offered : kind ∈ choices)
    (distinct : ∀ other ∈ choices, name other = name kind → other = kind) (amount : String)
    (shape : κ → Int → Metadata) (size : Int) :
    sized? name choices amount shape [(some "subtype", .text (name kind)), (some amount, .int size)] =
      some (shape kind size) := by
  simp [sized?, justMembers?, takeMember?, named_read offered distinct]

theorem of_members_members (metadata : Metadata) :
    ofMembers? metadata.typeName (metadata.members.map fun member => (some member.1, member.2)) = some metadata := by
  cases metadata with
  | renderPass tag width height attachments draws =>
    simp [ofMembers?, typeName, members, pass?, justMembers?, takeMember?]
  | dispatch x y z => exact extent_read .dispatch x y z
  | traceRays x y z => exact extent_read .traceRays x y z
  | imageTransfer kind pixels => exact sized_read (by cases kind <;> decide) (by cases kind <;> decide) "pixels" _ pixels
  | bufferTransfer kind bytes => exact sized_read (by cases kind <;> decide) (by cases kind <;> decide) "bytes" _ bytes
  | structureBuild kind primitives =>
    exact sized_read (by cases kind <;> decide) (by cases kind <;> decide) "primitives" _ primitives
  | structureTransfer kind bytes => exact sized_read (by cases kind <;> decide) (by cases kind <;> decide) "bytes" _ bytes

end Metadata

namespace Message

open Json

def counters : Message → List Reading
  | .startFrame _ | .endFrame _ => []
  | .frameCounters _ counters | .workload _ counters _ => counters

def CountsIntegers (message : Message) : Prop := ∀ reading ∈ message.counters, ∃ count, reading.value = .integer count

def frame? (shape : Nat → Message) (members : List (Option String × Json)) : Option Message :=
  match justMembers? ["frame"] members with
  | some [frame] => frame.nat?.map shape
  | _ => none

def frameCounters? (members : List (Option String × Json)) : Option Message :=
  match justMembers? ["frame", "counters"] members with
  | some [frame, counters] => do return .frameCounters (← frame.nat?) (← counters.list? Reading.ofJson?)
  | _ => none

def workload? (type : String) (members : List (Option String × Json)) : Option Message := do
  let (labels, members) ← takeMember? "labels" members
  let (counters, members) ← takeMember? "counters" members
  return .workload (← labels.list? text?) (← counters.list? Reading.ofJson?) (← Metadata.ofMembers? type members)

def ofMembers? (type : String) : List (Option String × Json) → Option Message :=
  if type = "start_frame" then frame? .startFrame
  else if type = "end_frame" then frame? .endFrame
  else if type = "frame" then frameCounters?
  else workload? type

def ofJson? : Json → Option Message
  | .object members => do
    let (type, members) ← takeMember? "type" members
    ofMembers? (← type.text?) members
  | _ => none

theorem workload_read (labels : Labels) (metadata : Metadata) {counters : Json} {readings : List Reading}
    (counted : counters.list? Reading.ofJson? = some readings) :
    ofMembers? metadata.typeName ((some "labels", .array (labels.map Json.text)) :: (some "counters", counters) ::
      metadata.members.map fun member => (some member.1, member.2)) = some (.workload labels readings metadata) := by
  have other : ofMembers? metadata.typeName = workload? metadata.typeName := by
    cases metadata with
    | _ => rfl
  have named : (array (labels.map Json.text)).list? text? = some labels := items_read fun _ _ => text_read _
  simp [other, workload?, takeMember?, named, counted, Metadata.of_members_members]

theorem of_json_json {message : Message} (integers : message.CountsIntegers) : ofJson? message.json = some message := by
  have counted : (array (message.counters.map Reading.json)).list? Reading.ofJson? = some message.counters :=
    items_read fun reading member => (integers reading member).elim fun _ integer => Reading.of_json_json integer
  cases message with
  | startFrame frame => rfl
  | endFrame frame => rfl
  | frameCounters frame counters =>
    exact congrArg (Option.bind · fun readings => some (Message.frameCounters frame readings)) counted
  | workload labels counters metadata => exact workload_read labels metadata counted

end Message

end GpuProfiler
