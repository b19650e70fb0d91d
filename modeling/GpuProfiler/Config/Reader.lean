import GpuProfiler.Config
import GpuProfiler.Json.Reader

/-!
Reading configurations. A structure is written as an object, whose unknown members are ignored and
whose missing ones keep their defaults, or as an array of its fields in order, from which trailing
ones may be missing. A name may be written as a string, or as the only name of an object whose
value is null. A word is a plain number. A field that is written twice is an error.
-/
set_option autoImplicit false

namespace GpuProfiler

namespace Json

def word? : Json → Option UInt64
  | .number value => value.toWord?
  | _ => none

def bool? : Json → Option Bool
  | .bool value => some value
  | _ => none

def text? : Json → Option String
  | .string text => text
  | _ => none

def readItems {α : Type} (read : Json → Option α) : List Json → Option (List α)
  | [] => some []
  | item :: rest =>
    match read item with
    | some value => (readItems read rest).map (value :: ·)
    | none => none

def list? {α : Type} (read : Json → Option α) : Json → Option (List α)
  | .array items => readItems read items
  | _ => none

def name? : Json → Option String
  | .string text => text
  | .object [(name, .null)] => name
  | _ => none

end Json

abbrev FieldReaders (σ : Type) := List (String × (Json → σ → Option σ))

namespace FieldReaders

variable {σ : Type}

def readMember (fields : FieldReaders σ) (name : String) (value : Json) (s : σ) : Option σ :=
  match fields.lookup name with
  | some read => read value s
  | none => some s

def repeats (fields : FieldReaders σ) (seen : List String) (name : String) : Bool :=
  seen.contains name && (fields.lookup name).isSome

def readMembers (fields : FieldReaders σ) (seen : List String) :
    List (Option String × Json) → σ → Option σ
  | [], s => some s
  | (none, _) :: _, _ => none
  | (some name, value) :: rest, s =>
    if repeats fields seen name then none
    else
      match readMember fields name value s with
      | some changed => readMembers fields (name :: seen) rest changed
      | none => none

def readInOrder : FieldReaders σ → List Json → σ → Option σ
  | _, [], s => some s
  | [], _ :: _, _ => none
  | (_, read) :: fields, value :: rest, s =>
    match read value s with
    | some changed => readInOrder fields rest changed
    | none => none

def read (fields : FieldReaders σ) (defaults : σ) : Json → Option σ
  | .object members => readMembers fields [] members defaults
  | .array items => readInOrder fields items defaults
  | _ => none

end FieldReaders

namespace TrapTiming

def fields : FieldReaders TrapTiming := [
  ("poll_interval_us", fun value timing =>
    value.word?.map fun micros => { timing with pollMicros := micros }),
  ("settle_delay_ms", fun value timing =>
    value.word?.map fun millis => { timing with settleMillis := millis })]

def ofJson? (value : Json) : Option TrapTiming := fields.read default value

end TrapTiming

namespace Config

def fields : FieldReaders Config := [
  ("frame_mode", fun value config =>
    (value.name?.bind FrameMode.ofName?).map fun mode => { config with mode := mode }),
  ("frame_list", fun value config =>
    (value.list? Json.word?).map fun frames => { config with frameList := frames }),
  ("periodic_min_frame", fun value config =>
    value.word?.map fun frame => { config with periodicMinFrame := frame }),
  ("periodic_frame", fun value config =>
    value.word?.map fun period => { config with periodicFrame := period }),
  ("sample_workloads", fun value config =>
    value.bool?.map fun enabled => { config with sampleWorkloads := enabled }),
  ("sample_frames", fun value config =>
    value.bool?.map fun enabled => { config with sampleFrames := enabled }),
  ("trap", fun value config =>
    (TrapTiming.ofJson? value).map fun timing => { config with trap := timing }),
  ("counters", fun value config =>
    (value.list? Json.text?).map fun names => { config with counters := names })]

def ofJson? (value : Json) : Option Config := fields.read default value

def parse (text : String) : Except Error Config :=
  match (Json.parse text).bind ofJson? with
  | none => .error .configInvalid
  | some config => config.validate.map fun _ => config

inductive Source where
  | missing
  | directory
  | file (bytes : ByteArray)

def load : Source → Except Error Config
  | .missing | .directory => .error .configUnreadable
  | .file bytes =>
    match String.fromUTF8? bytes with
    | some text => parse text
    | none => .error .configUnreadable

-- The configuration in the file that the environment names; the default one where it names none or
-- the file cannot be used.
def fromEnvironment : Option Source → Config
  | none => default
  | some source =>
    match load source with
    | .ok config => config
    | .error _ => default

end Config

end GpuProfiler
