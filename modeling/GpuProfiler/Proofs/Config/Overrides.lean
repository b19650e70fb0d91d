import GpuProfiler.Proofs.Json.Decoded
import GpuProfiler.Proofs.Json.RoundTrip

set_option autoImplicit false

namespace GpuProfiler

namespace FieldReaders

variable {σ φ : Type}

theorem read_member_part {β : Type} {fields : FieldReaders σ} {name : String} {part : Json → Option β} {put : β → σ → σ}
    {value : Json} {x : β} (listed : fields.lookup name = some fun value s => (part value).map (put · s))
    (read : part value = some x) (s : σ) : readMember fields name value s = some (put x s) := by
  rw [readMember, listed]
  exact congrArg (Option.map (put · s)) read

-- The induction is on the fields that are written; no name that is still to come was seen before.
theorem read_members_chosen {fields : FieldReaders σ} {name : φ → String} {value : φ → Json} {put : φ → σ → σ}
    (apart : ∀ f g, name f = name g → f = g) (reads : ∀ f s, readMember fields (name f) (value f) s = some (put f s))
    (chosen : List φ) (once : chosen.Nodup) (seen : List String) (unseen : ∀ f ∈ chosen, name f ∉ seen) (s : σ) :
    readMembers fields seen (chosen.map fun f => (some (name f), value f)) s = some (chosen.foldl (fun s f => put f s) s) := by
  induction chosen generalizing seen s with
  | nil => rfl
  | cons f chosen ih =>
    obtain ⟨absent, later⟩ := List.nodup_cons.mp once
    have new : repeats fields seen (name f) = false := by
      simp [repeats, unseen f List.mem_cons_self]
    have onward : ∀ g ∈ chosen, name g ∉ name f :: seen := by
      intro g member known
      obtain same | known := List.mem_cons.mp known
      · exact absent (apart g f same ▸ member)
      · exact unseen g (List.mem_cons_of_mem _ member) known
    rw [List.map_cons, readMembers, new, if_neg Bool.false_ne_true, reads f s]
    exact ih later (name f :: seen) onward (put f s)

end FieldReaders

inductive TrapField where
  | pollMicros
  | settleMillis
deriving DecidableEq

inductive ConfigField where
  | mode
  | frameList
  | periodicMinFrame
  | periodicFrame
  | sampleWorkloads
  | sampleFrames
  | trap
  | counters
deriving DecidableEq

namespace TrapField

def name : TrapField → String
  | .pollMicros => "poll_interval_us"
  | .settleMillis => "settle_delay_ms"

def all : List TrapField := [.pollMicros, .settleMillis]

theorem name_apart (f g : TrapField) (same : f.name = g.name) : f = g := by
  revert same
  cases f <;> cases g <;> decide

end TrapField

namespace ConfigField

def name : ConfigField → String
  | .mode => "frame_mode"
  | .frameList => "frame_list"
  | .periodicMinFrame => "periodic_min_frame"
  | .periodicFrame => "periodic_frame"
  | .sampleWorkloads => "sample_workloads"
  | .sampleFrames => "sample_frames"
  | .trap => "trap"
  | .counters => "counters"

def all : List ConfigField :=
  [.mode, .frameList, .periodicMinFrame, .periodicFrame, .sampleWorkloads, .sampleFrames, .trap, .counters]

theorem name_apart (f g : ConfigField) (same : f.name = g.name) : f = g := by
  revert same
  cases f <;> cases g <;> decide

end ConfigField

namespace TrapTiming

variable (timing : TrapTiming) (chosen : List TrapField)

def value : TrapField → Json
  | .pollMicros => .nat timing.pollMicros.toNat
  | .settleMillis => .nat timing.settleMillis.toNat

def written : Json := .ofMembers (chosen.map fun f => (f.name, timing.value f))

def overriding (other : TrapTiming) : TrapTiming where
  pollMicros := if .pollMicros ∈ chosen then timing.pollMicros else other.pollMicros
  settleMillis := if .settleMillis ∈ chosen then timing.settleMillis else other.settleMillis

theorem overriding_each (other : TrapTiming) :
    chosen.foldl (fun s f => timing.overriding [f] s) other = timing.overriding chosen other := by
  induction chosen generalizing other with
  | nil => simp [overriding]
  | cons f chosen ih =>
    rw [List.foldl_cons, ih]
    cases f with
    | _ => simp [overriding]

theorem member_read (f : TrapField) (other : TrapTiming) :
    FieldReaders.readMember fields f.name (timing.value f) other = some (timing.overriding [f] other) := by
  cases f with
  | pollMicros =>
    exact (FieldReaders.read_member_part rfl (Json.word_read timing.pollMicros) other).trans (by simp [overriding])
  | settleMillis =>
    exact (FieldReaders.read_member_part rfl (Json.word_read timing.settleMillis) other).trans (by simp [overriding])

theorem of_json_written (once : chosen.Nodup) : ofJson? (timing.written chosen) = some (timing.overriding chosen default) := by
  rw [ofJson?, written, Json.ofMembers, List.map_map, FieldReaders.read, ← overriding_each]
  exact FieldReaders.read_members_chosen TrapField.name_apart (member_read timing) chosen once [] (by simp) default

theorem written_proper : (timing.written chosen).Proper := by
  refine Json.proper_object fun member inside => ?_
  obtain ⟨f, -, rfl⟩ := List.mem_map.mp inside
  cases f with
  | _ => exact Json.proper_nat _

end TrapTiming

namespace Config

variable (config : Config) (chosen : List ConfigField) (inner : List TrapField)

def value : ConfigField → Json
  | .mode => .text config.mode.name
  | .frameList => .array (config.frameList.map fun frame => .nat frame.toNat)
  | .periodicMinFrame => .nat config.periodicMinFrame.toNat
  | .periodicFrame => .nat config.periodicFrame.toNat
  | .sampleWorkloads => .bool config.sampleWorkloads
  | .sampleFrames => .bool config.sampleFrames
  | .trap => config.trap.written inner
  | .counters => .array (config.counters.map Json.text)

def written : Json := .ofMembers (chosen.map fun f => (f.name, config.value inner f))

-- The chosen fields are those of the configuration, the others those of another one. Of the timing,
-- what is not chosen is always the default.
def overriding (other : Config) : Config where
  mode := if .mode ∈ chosen then config.mode else other.mode
  frameList := if .frameList ∈ chosen then config.frameList else other.frameList
  periodicMinFrame := if .periodicMinFrame ∈ chosen then config.periodicMinFrame else other.periodicMinFrame
  periodicFrame := if .periodicFrame ∈ chosen then config.periodicFrame else other.periodicFrame
  sampleWorkloads := if .sampleWorkloads ∈ chosen then config.sampleWorkloads else other.sampleWorkloads
  sampleFrames := if .sampleFrames ∈ chosen then config.sampleFrames else other.sampleFrames
  trap := if .trap ∈ chosen then config.trap.overriding inner .default else other.trap
  counters := if .counters ∈ chosen then config.counters else other.counters

theorem written_all : config.written ConfigField.all TrapField.all = config.json := rfl

theorem overriding_each (other : Config) :
    chosen.foldl (fun s f => config.overriding [f] inner s) other = config.overriding chosen inner other := by
  induction chosen generalizing other with
  | nil => simp [overriding]
  | cons f chosen ih =>
    rw [List.foldl_cons, ih]
    cases f with
    | _ => simp [overriding]

theorem mode_read (mode : FrameMode) : (Json.text mode.name).name?.bind FrameMode.ofName? = some mode := by
  cases mode with
  | _ => decide

theorem member_read (once : inner.Nodup) (f : ConfigField) (other : Config) :
    FieldReaders.readMember fields f.name (config.value inner f) other = some (config.overriding [f] inner other) := by
  have frames : (config.value inner .frameList).list? Json.word? = some config.frameList :=
    Json.items_read fun frame _ => Json.word_read frame
  have named : (config.value inner .counters).list? Json.text? = some config.counters :=
    Json.items_read fun name _ => Json.text_read name
  have timed : TrapTiming.ofJson? (config.value inner .trap) = some (config.trap.overriding inner .default) :=
    TrapTiming.of_json_written config.trap inner once
  cases f with
  | mode => exact (FieldReaders.read_member_part rfl (mode_read config.mode) other).trans (by simp [overriding])
  | frameList => exact (FieldReaders.read_member_part rfl frames other).trans (by simp [overriding])
  | periodicMinFrame =>
    exact (FieldReaders.read_member_part rfl (Json.word_read config.periodicMinFrame) other).trans (by simp [overriding])
  | periodicFrame =>
    exact (FieldReaders.read_member_part rfl (Json.word_read config.periodicFrame) other).trans (by simp [overriding])
  | sampleWorkloads =>
    exact (FieldReaders.read_member_part rfl (Json.bool_read config.sampleWorkloads) other).trans (by simp [overriding])
  | sampleFrames =>
    exact (FieldReaders.read_member_part rfl (Json.bool_read config.sampleFrames) other).trans (by simp [overriding])
  | trap => exact (FieldReaders.read_member_part rfl timed other).trans (by simp [overriding])
  | counters => exact (FieldReaders.read_member_part rfl named other).trans (by simp [overriding])

theorem of_json_written (once : chosen.Nodup) (within : inner.Nodup) :
    ofJson? (config.written chosen inner) = some (config.overriding chosen inner default) := by
  rw [ofJson?, written, Json.ofMembers, List.map_map, FieldReaders.read, ← overriding_each]
  exact FieldReaders.read_members_chosen ConfigField.name_apart (member_read config inner within) chosen once [] (by simp)
    default

theorem overriding_all (other : Config) : config.overriding ConfigField.all TrapField.all other = config := by
  simp [overriding, ConfigField.all, TrapTiming.overriding, TrapField.all]

theorem written_proper : (config.written chosen inner).Proper := by
  refine Json.proper_object fun member inside => ?_
  obtain ⟨f, -, rfl⟩ := List.mem_map.mp inside
  cases f with
  | frameList =>
    refine Json.proper_array fun item listed => ?_
    obtain ⟨frame, -, rfl⟩ := List.mem_map.mp listed
    exact Json.proper_nat _
  | trap => exact TrapTiming.written_proper config.trap inner
  | counters =>
    refine Json.proper_array fun item listed => ?_
    obtain ⟨name, -, rfl⟩ := List.mem_map.mp listed
    exact Json.proper_text name
  | _ => simp [value]

/-- A configuration of which only some fields are written, in any order, is read as the default one
with those fields replaced, also those of the timing, unless it then asks for a period of no frames.
However it is spelled makes no difference. In particular a whole configuration that is valid is read
back from its own text. -/
theorem written_fields_replace_defaults :
    (∀ (config : Config) (chosen : List ConfigField) (inner : List TrapField) (text : String),
      chosen.Nodup → inner.Nodup → (config.written chosen inner).Writes text →
        parse text =
          if (config.overriding chosen inner default).mode = .periodic ∧
              (config.overriding chosen inner default).periodicFrame = 0 then
            .error .configInvalid
          else .ok (config.overriding chosen inner default)) ∧
    ∀ config : Config, config.validate = .ok () → parse config.json.render = .ok config := by
  refine ⟨?_, ?_⟩
  · intro config chosen inner text once within written
    rw [parse, Json.parse_written written, Option.bind_some, of_json_written config chosen inner once within]
    dsimp only
    rw [validate]
    split <;> rfl
  · intro config valid
    have read := of_json_written config ConfigField.all TrapField.all (by decide) (by decide)
    rw [overriding_all] at read
    rw [parse, ← written_all, Json.parse_render (written_proper config _ _), Option.bind_some, read]
    dsimp only
    rw [valid]
    rfl

-- Only the timing is written, and of it only one field: with blanks, and a letter as an escape.
def spacedText : String := String.ofList
  ('\x7b' :: ' ' :: '"' :: 't' :: 'r' :: '\\' :: 'u' :: '0' :: '0' :: '6' :: '1' :: 'p' :: '"' :: ' ' :: ':' :: '\n' ::
    '\x7b' :: (Json.quotedChars (some "settle_delay_ms") ++ ':' :: ' ' :: '1' :: ' ' :: '\x7d' :: ' ' :: '\x7d' :: []))

def settled : Config := { default with mode := .periodic, periodicFrame := 0, trap := ⟨9, 1⟩ }

theorem spaced_text_writes : (settled.written [.trap] [.settleMillis]).Writes spacedText := by
  have blank : Json.Blank [' '] := by simp [Json.Blank, Scanning.isBlank]
  have broken : Json.Blank ['\n'] := by simp [Json.Blank, Scanning.isBlank]
  have plain (c : Char) (shown : c ≠ '"' ∧ c ≠ '\\' ∧ 32 ≤ c.toNat) : Json.SpellsChar c [c] :=
    .itself c shown.1 shown.2.1 shown.2.2
  have escaped : Json.SpellsChar 'a' ['\\', 'u', '0', '0', '6', '1'] :=
    .unit 'a' _ _ _ _ ⟨0, 0, 6, 1, rfl, rfl, rfl, rfl, rfl⟩
  have name : Json.SpellsText "trap".toList ['t', 'r', '\\', 'u', '0', '0', '6', '1', 'p'] :=
    .cons _ _ _ _ (plain 't' (by decide)) (.cons _ _ _ _ (plain 'r' (by decide)) (.cons _ _ _ _ escaped
      (.cons _ _ _ _ (plain 'p' (by decide)) .nil)))
  have one : Json.SpellsScalar (.nat 1) ['1'] := .number (.ofNat 1) (Numeral.ofNat_proper 1)
  have ended : Json.Spells [.closeObject, .closeObject] [' ', '\x7d', ' ', '\x7d'] :=
    .mark [' '] _ _ _ _ blank rfl (.mark [' '] _ _ _ _ blank rfl (.nothing [] (by simp [Json.Blank])))
  rw [Json.Writes, spacedText, String.toList_ofList]
  exact Json.spells_mark rfl (.scalar [' '] _ _ _ _ blank (.text _ _ name) (Json.apart_cons (by decide))
    (.mark [' '] _ _ _ _ blank rfl (.mark ['\n'] _ _ _ _ broken rfl
      (Json.spells_scalar (Json.quoted_spells _) (Json.apart_cons (by decide)) (Json.spells_mark rfl
        (.scalar [' '] _ _ _ _ blank one (Json.apart_cons (by decide)) ended))))))

theorem partly_written_read :
    [ConfigField.trap].Nodup ∧ [TrapField.settleMillis].Nodup ∧
      (settled.written [.trap] [.settleMillis]).Writes spacedText ∧
      parse spacedText = .ok { default with trap := ⟨250, 1⟩ } ∧
      parse (settled.written [.periodicFrame, .mode] []).render = .error .configInvalid ∧
      (default.withPeriodic 10 5).validate = .ok () ∧
      parse (default.withPeriodic 10 5).json.render = .ok (default.withPeriodic 10 5) := by
  refine ⟨by decide, by decide, spaced_text_writes, ?_, ?_, rfl, written_fields_replace_defaults.2 _ rfl⟩
  · rw [written_fields_replace_defaults.1 settled _ _ spacedText (by decide) (by decide) spaced_text_writes]
    decide
  · rw [written_fields_replace_defaults.1 settled _ _ _ (by decide) (by decide)
      (Json.render_writes (written_proper settled [.periodicFrame, .mode] []))]
    decide

end Config

end GpuProfiler
