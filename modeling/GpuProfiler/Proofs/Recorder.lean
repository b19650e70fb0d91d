import Mathlib.Algebra.GroupWithZero.Nat
import GpuProfiler.Proofs.Act
import GpuProfiler.Recorder

set_option autoImplicit false

namespace GpuProfiler

def Workload.suspends : Workload → Bool
  | .renderPass pass => pass.suspending
  | .continuation part => part.suspending
  | _ => false

def Record.suspends (record : Record) : Bool := record.workload.suspends

namespace Stream

def trapped (stream : Stream) : Nat := stream.countP Record.traps

@[simp] theorem trapped_nil : trapped [] = 0 := rfl

@[simp] theorem trapped_append (stream more : Stream) : trapped (stream ++ more) = trapped stream + trapped more :=
  List.countP_append

@[simp] theorem trapped_singleton (record : Record) : trapped [record] = record.traps.toNat := by
  cases traps : record.traps <;> simp [trapped, traps]

theorem trapped_flatten (streams : List Stream) : trapped streams.flatten = (streams.map trapped).sum := by
  induction streams with
  | nil => rfl
  | cons stream rest ih => rw [List.flatten_cons, trapped_append, ih, List.map_cons, List.sum_cons]

theorem trapped_flat_map {α : Type} (stream : α → Stream) (sources : List α) :
    trapped (sources.flatMap stream) = (sources.map fun source => (stream source).trapped).sum := by
  rw [List.flatMap_def, trapped_flatten, List.map_map]
  rfl

theorem trapped_set {stream : Stream} {position : Nat} {old : Record} (record : Record)
    (there : stream[position]? = some old) (silent : old.traps = false) :
    trapped (stream.set position record) = trapped stream + record.traps.toNat := by
  obtain ⟨bound, same⟩ := List.getElem?_eq_some_iff.mp there
  unfold trapped
  rw [List.countP_set bound, same]
  cases traps : record.traps <;> simp [silent]

theorem map_modify {α : Type} (view : Record → α) (stream : Stream) (position : Nat) {change : Record → Record}
    (same : ∀ record, view (change record) = view record) : (stream.modify position change).map view = stream.map view := by
  apply List.ext_getElem?
  intro place
  rw [List.getElem?_map, List.getElem?_map, List.getElem?_modify]
  cases stream[place]? with
  | none => rfl
  | some record => by_cases here : position = place <;> simp [here, same]

-- The first record that the device stops after now and did not stop after before.
def news : Stream → Stream → Option Record
  | _, [] => none
  | [], record :: rest => if record.traps then some record else news [] rest
  | old :: before, record :: rest => if record.traps && !old.traps then some record else news before rest

-- What one command does to the records, when that of the open part stands at the given place. The
-- flag says whether the device stops after the command.
inductive Step (openAt : Option Nat) (stream : Stream) : Bool → Stream → Prop
  | same : Step openAt stream false stream
  | opened (record : Record) (silent : record.traps = false) : Step openAt stream false (stream ++ [record])
  | sampled (record : Record) (traps : record.traps = true) : Step openAt stream true (stream ++ [record])
  | ended (position : Nat) (old record : Record) (place : openAt = some position)
      (there : stream[position]? = some old) (silent : old.traps = false) :
      Step openAt stream record.traps (stream.set position record)

theorem step_trapped {openAt : Option Nat} {stream next : Stream} {stops : Bool}
    (step : Step openAt stream stops next) : trapped next = trapped stream + stops.toNat := by
  cases step with
  | same => rfl
  | opened record silent => simp [silent]
  | sampled record traps => simp [traps]
  | ended position old record place there silent => exact trapped_set record there silent

theorem news_nil (stream : Stream) : news [] stream = stream.find? Record.traps := by
  induction stream with
  | nil => rfl
  | cons record rest ih =>
    rw [news, ih, List.find?_cons]
    cases record.traps <;> rfl

theorem news_same (stream : Stream) : news stream stream = none := by
  induction stream with
  | nil => rfl
  | cons record rest ih => simp [news, ih]

theorem news_concat (stream : Stream) (record : Record) :
    news stream (stream ++ [record]) = if record.traps then some record else none := by
  induction stream with
  | nil =>
    rw [List.nil_append, news_nil, List.find?_singleton]
  | cons old rest ih => simp [news, ih]

theorem news_set {stream : Stream} {position : Nat} {old : Record} (record : Record)
    (there : stream[position]? = some old) (silent : old.traps = false) :
    news stream (stream.set position record) = if record.traps then some record else none := by
  induction stream generalizing position with
  | nil => simp at there
  | cons first rest ih =>
    cases position with
    | zero =>
      obtain rfl : first = old := by simpa using there
      rw [List.set_cons_zero, news, silent, news_same]
      simp
    | succ position =>
      rw [List.set_cons_succ, news, ih (by simpa using there)]
      simp

theorem step_news {openAt : Option Nat} {stream next : Stream} {stops : Bool} (step : Step openAt stream stops next) :
    (news stream next).isSome = stops := by
  cases step with
  | same => rw [news_same]; rfl
  | opened record silent => rw [news_concat, silent]; rfl
  | sampled record traps => rw [news_concat, traps]; rfl
  | ended position old record place there silent =>
    rw [news_set record there silent]
    cases record.traps <;> rfl

-- The record of an open part is the last one, so it comes to stop the device in its turn.
theorem step_in_order {openAt : Option Nat} {stream next : Stream} {stops : Bool} (step : Step openAt stream stops next)
    (last : ∀ position, openAt = some position → position + 1 = stream.length) :
    next.filter Record.traps = stream.filter Record.traps ++ (news stream next).toList := by
  cases step with
  | same => simp [news_same]
  | opened record silent => simp [news_concat, silent]
  | sampled record traps => simp [news_concat, traps]
  | ended position old record place there silent =>
    rw [news_set record there silent]
    obtain ⟨bound, same⟩ := List.getElem?_eq_some_iff.mp there
    have split : stream = stream.take position ++ [old] := by
      rw [← same, List.take_append_getElem, last position place, List.take_length]
    have behind : (stream.take position).length = position := List.length_take_of_le (Nat.le_of_lt bound)
    rw [split, List.set_append_right _ _ (Nat.le_of_eq behind), behind, Nat.sub_self, List.set_cons_zero]
    cases traps : record.traps <;> simp [silent, traps]

end Stream

def Command.fitsPass : Command → Bool
  | .draw _ _ | .drawIndirect _ | .beginDebugLabel _ | .endDebugLabel | .other _ | .endRenderPass => true
  | _ => false

theorem Command.work_outside {recorded : Command} {workload : Workload} (works : recorded.workload = .ok (some workload)) :
    recorded.fitsPass = false := by
  cases recorded <;> first | rfl | cases works

theorem Command.image_works (kind : ImageTransferKind) (pixels : Except Halt Count) : imageWork kind pixels ≠ .ok none := by
  cases pixels <;> simp [imageWork, Except.map]

def Command.Accounts (recorded : Command) (record : Record) : Prop :=
  if Recorder.isPass record.workload then recorded = .endRenderPass
  else recorded.workload = .ok (some record.workload)

-- A record of an open part: not trapped so far, and known to suspend or not.
structure Record.Awaits (record : Record) (suspending : Bool) : Prop where
  part : Recorder.isPass record.workload = true
  silent : record.traps = false
  suspends : record.suspends = suspending

structure ActivePass.Sound (pass : ActivePass) (stream : Stream) (profiled : Bool) : Prop where
  captured : pass.captured = true → profiled = true ∧ pass.position.isSome = true
  standing : ∀ position, pass.position = some position →
    ∃ record, stream[position]? = some record ∧ record.Awaits pass.suspending

theorem ActivePass.sound_append {pass : ActivePass} {stream : Stream} {profiled : Bool}
    (sound : pass.Sound stream profiled) (more : Stream) : pass.Sound (stream ++ more) profiled := by
  refine ⟨sound.captured, ?_⟩
  intro position kept
  obtain ⟨record, there, awaits⟩ := sound.standing position kept
  exact ⟨record, by rw [List.getElem?_append_left (List.getElem?_eq_some_iff.mp there).1, there], awaits⟩

theorem Record.awaits_complete {record : Record} {suspending : Bool} (awaits : record.Awaits suspending)
    (drawCalls : UInt64) (trapped : Bool) :
    Record.traps ⟨record.workload.complete drawCalls trapped, record.labels⟩ = trapped ∧
      Record.suspends ⟨record.workload.complete drawCalls trapped, record.labels⟩ = suspending ∧
      Recorder.isPass (record.workload.complete drawCalls trapped) = true := by
  obtain ⟨workload, labels⟩ := record
  obtain ⟨part, silent, suspends⟩ := awaits
  cases workload with
  | renderPass pass => exact ⟨rfl, suspends, rfl⟩
  | continuation continued => exact ⟨rfl, suspends, rfl⟩
  | _ => cases part

namespace Recorder

def openAt (recorder : Recorder) : Option Nat := recorder.active.bind (·.position)

def InOrder (recorder : Recorder) : Prop :=
  ∀ position, recorder.openAt = some position → position + 1 = recorder.stream.length

-- What every recorder keeps to; `profiled` says whether its device has a trap.
structure Sound (recorder : Recorder) (profiled : Bool) : Prop where
  active : ∀ pass, recorder.active = some pass → pass.Sound recorder.stream profiled
  suspended : ∀ pass, recorder.suspended = some pass → pass.captured = true → profiled = true
  records : ∀ record ∈ recorder.stream, record.traps = true → record.suspends = false ∧ profiled = true

theorem raw_open_pass (recorder : Recorder) (flags : RenderPassFlags) (mode : CaptureMode) (captured : Bool)
    (tag : Option RenderPassTag) (workload : Workload) :
    (recorder.openPass flags mode captured tag workload).raw = recorder.raw := by
  unfold openPass
  dsimp only
  split <;> rfl

theorem raw_end_pass (recorder : Recorder) : recorder.endPass.2.raw = recorder.raw := by
  unfold endPass
  split <;> rfl

theorem raw_record (recorder : Recorder) (workload : Workload) (capture : Bool) :
    (recorder.record workload capture).2.raw = recorder.raw := by
  unfold record
  split
  · rfl
  · dsimp only
    split <;> rfl

theorem active_record (recorder : Recorder) (workload : Workload) (capture : Bool) :
    (recorder.record workload capture).2.active = recorder.active := by
  unfold record
  split
  · rfl
  · dsimp only
    split <;> rfl

theorem stream_record (recorder : Recorder) (workload : Workload) (capture : Bool) :
    (recorder.record workload capture).2.stream = recorder.stream ++
      if isPass workload then [] else if capture then [⟨workload, recorder.labels.snapshot⟩] else [] := by
  unfold record
  cases isPass workload <;> cases capture <;> simp [push]

variable {recorder : Recorder} {profiled : Bool}

theorem in_order_closed (closed : recorder.active = none) : recorder.InOrder := by
  intro position opened
  rw [openAt, closed] at opened
  cases opened

theorem in_order_same {next : Recorder} (ordered : recorder.InOrder) (same : next.openAt = recorder.openAt)
    (stream : next.stream = recorder.stream) : next.InOrder := by
  intro position opened
  rw [stream]
  exact ordered position (same ▸ opened)

theorem in_order_open_pass (recorder : Recorder) (flags : RenderPassFlags) (mode : CaptureMode) (captured : Bool)
    (tag : Option RenderPassTag) (workload : Workload) :
    (recorder.openPass flags mode captured tag workload).InOrder := by
  intro position opened
  by_cases kept : (captured || ((flags.suspending || flags.resuming) && mode != .off)) = true
  · simp only [openPass, kept, if_true, openAt, Option.bind_some, Option.some.injEq] at opened ⊢
    rw [← opened]
    simp [push]
  · simp [openPass, kept, openAt] at opened

theorem in_order_end_pass (ordered : recorder.InOrder) : recorder.endPass.2.InOrder := by
  unfold endPass
  split
  · exact ordered
  · exact in_order_closed rfl

theorem sound_new (raw : RawBuffer) (level : BufferLevel) : (new raw level).Sound profiled :=
  ⟨fun _ opened => (nomatch opened), fun _ left => (nomatch left), fun _ member => (nomatch member)⟩

theorem sound_start (recorder : Recorder) : recorder.start.Sound profiled :=
  ⟨fun _ opened => (nomatch opened), fun _ left => (nomatch left), fun _ member => (nomatch member)⟩

theorem sound_reset (recorder : Recorder) : recorder.reset.Sound profiled :=
  sound_new recorder.raw recorder.level

theorem sound_finish (sound : recorder.Sound profiled) : recorder.finish.Sound profiled :=
  ⟨sound.active, sound.suspended, sound.records⟩

theorem sound_append (sound : recorder.Sound profiled) (more : Stream)
    (others : ∀ record ∈ more, record.traps = true → record.suspends = false ∧ profiled = true) :
    (recorder.append more).Sound profiled := by
  refine ⟨fun pass opened => ActivePass.sound_append (sound.active pass opened) more, sound.suspended, ?_⟩
  intro record member
  rcases List.mem_append.mp member with old | new
  · exact sound.records record old
  · exact others record new

theorem sound_push (sound : recorder.Sound profiled) (workload : Workload)
    (fits : workload.traps = true → workload.suspends = false ∧ profiled = true) :
    (recorder.push workload).Sound profiled := by
  have pushed : recorder.push workload = recorder.append [⟨workload, recorder.labels.snapshot⟩] := rfl
  rw [pushed]
  refine sound_append sound _ ?_
  intro record member
  rw [List.mem_singleton.mp member]
  exact fits

theorem sound_open_pass (sound : recorder.Sound profiled) (flags : RenderPassFlags) (mode : CaptureMode)
    (captured : Bool) (tag : Option RenderPassTag) (workload : Workload)
    (awaits : ∀ labels, Record.Awaits ⟨workload, labels⟩ flags.suspending)
    (decided : captured = true → profiled = true) :
    (recorder.openPass flags mode captured tag workload).Sound profiled ∧
      Stream.Step recorder.openAt recorder.stream false (recorder.openPass flags mode captured tag workload).stream := by
  have silent : workload.traps = false := (awaits []).silent
  by_cases kept : (captured || ((flags.suspending || flags.resuming) && mode != .off)) = true
  · have pushed := sound_push sound workload (fun traps => by simp [silent] at traps)
    simp only [openPass, kept, if_true]
    refine ⟨⟨?_, pushed.suspended, pushed.records⟩, .opened _ silent⟩
    intro pass opened
    cases opened
    refine ⟨fun holds => ⟨decided holds, rfl⟩, ?_⟩
    intro position placed
    cases placed
    exact ⟨_, List.getElem?_concat_length, awaits _⟩
  · have off : captured = false := by
      cases captured with
      | false => rfl
      | true => exact absurd rfl kept
    simp only [openPass, kept, Bool.false_eq_true, if_false]
    refine ⟨⟨?_, sound.suspended, sound.records⟩, .same⟩
    intro pass opened
    cases opened
    exact ⟨fun holds => by simp [off] at holds, fun _ kept => (nomatch kept)⟩

theorem sound_begin_pass (sound : recorder.Sound profiled) (tag : RenderPassTag) (begun : RenderPassBegin)
    (mode : CaptureMode) (decided : mode.captures = true → profiled = true) :
    (recorder.beginPass tag begun mode).Sound profiled ∧
      Stream.Step recorder.openAt recorder.stream false (recorder.beginPass tag begun mode).stream := by
  have counted : Sound { recorder with stats := { recorder.stats with renderPasses := recorder.stats.renderPasses + 1 } }
      profiled := ⟨sound.active, sound.suspended, sound.records⟩
  exact sound_open_pass counted begun.flags mode _ _ _ (fun _ => ⟨rfl, rfl, rfl⟩) decided

theorem sound_resume_pass (sound : recorder.Sound profiled) (begun : RenderPassBegin) (mode : CaptureMode)
    (decided : mode.captures = true → profiled = true) :
    (recorder.resumePass begun mode).Sound profiled ∧
      Stream.Step recorder.openAt recorder.stream false (recorder.resumePass begun mode).stream := by
  have left : Sound { recorder with suspended := none } profiled :=
    ⟨sound.active, fun _ left => (nomatch left), sound.records⟩
  refine sound_open_pass left begun.flags mode _ _ _ (fun _ => ⟨rfl, rfl, rfl⟩) ?_
  cases before : recorder.suspended with
  | none => exact decided
  | some pass => exact sound.suspended pass before

section Ending

variable {position : Nat} {old : Record} {suspending : Bool} {stream : Stream}

theorem modify_ended (there : stream[position]? = some old) (drawCalls : UInt64) (trapped : Bool) :
    stream.modify position (fun record => { record with workload := record.workload.complete drawCalls trapped }) =
      stream.set position ⟨old.workload.complete drawCalls trapped, old.labels⟩ := by
  have : Inhabited Record := ⟨old⟩
  rw [List.modify_eq_set, there]
  rfl

theorem records_ended (records : ∀ record ∈ stream, record.traps = true → record.suspends = false ∧ profiled = true)
    (awaits : old.Awaits suspending) (drawCalls : UInt64) {trapped : Bool}
    (fits : trapped = true → suspending = false ∧ profiled = true) :
    ∀ record ∈ stream.set position ⟨old.workload.complete drawCalls trapped, old.labels⟩,
      record.traps = true → record.suspends = false ∧ profiled = true := by
  intro record member traps
  rcases List.mem_or_eq_of_mem_set member with before | rfl
  · exact records record before traps
  · obtain ⟨stops, suspends, _⟩ := Record.awaits_complete awaits drawCalls trapped
    rw [suspends]
    exact fits (stops ▸ traps)

theorem news_ended (there : stream[position]? = some old) (awaits : old.Awaits suspending) (drawCalls : UInt64)
    (trapped : Bool) {record : Record}
    (new : stream.news (stream.set position ⟨old.workload.complete drawCalls trapped, old.labels⟩) = some record) :
    isPass record.workload = true := by
  rw [Stream.news_set _ there awaits.silent] at new
  split at new
  · cases new
    exact (Record.awaits_complete awaits drawCalls trapped).2.2
  · cases new

end Ending

theorem sound_end_pass (sound : recorder.Sound profiled) :
    recorder.endPass.2.Sound profiled ∧
      Stream.Step recorder.openAt recorder.stream recorder.endPass.1.needsTrap recorder.endPass.2.stream ∧
      (recorder.endPass.1.needsTrap = true → profiled = true) ∧
      ∀ record, recorder.stream.news recorder.endPass.2.stream = some record → isPass record.workload = true := by
  unfold endPass
  cases opened : recorder.active with
  | none =>
    exact ⟨sound, .same, fun never => (nomatch never), fun record new => by rw [Stream.news_same] at new; cases new⟩
  | some pass =>
    have part := sound.active pass opened
    have stops : (!pass.suspending && pass.captured) = true → pass.suspending = false ∧ profiled = true := by
      intro both
      rw [Bool.and_eq_true, Bool.not_eq_true'] at both
      exact ⟨both.1, (part.captured both.2).1⟩
    have left : ∀ next, (if pass.suspending then some (SuspendedPass.mk pass.tag pass.captured) else none) = some next →
        next.captured = true → profiled = true := by
      intro next left captured
      split at left
      · cases left
        exact (part.captured captured).1
      · cases left
    cases kept : pass.position with
    | none =>
      have uncaptured : pass.captured = false := by
        cases captured : pass.captured with
        | false => rfl
        | true => simpa [kept] using (part.captured captured).2
      simp only [kept, uncaptured, Bool.and_false] at stops left ⊢
      exact ⟨⟨fun _ opened => (nomatch opened), left, sound.records⟩, .same, fun never => (stops never).2,
        fun record new => by rw [Stream.news_same] at new; cases new⟩
    | some position =>
      obtain ⟨old, there, awaits⟩ := part.standing position kept
      have place : recorder.openAt = some position := by rw [openAt, opened, Option.bind_some, kept]
      have ended := Stream.Step.ended position old
        ⟨old.workload.complete pass.drawCalls (!pass.suspending && pass.captured), old.labels⟩ place there
        awaits.silent
      rw [(Record.awaits_complete awaits _ _).1] at ended
      simp only [kept, modify_ended there]
      exact ⟨⟨fun _ opened => (nomatch opened), left, records_ended sound.records awaits _ stops⟩, ended,
        fun traps => (stops traps).2, fun record new => news_ended there awaits _ _ new⟩

theorem draw_cases {count : UInt64} {drawn : Recorder} (ran : recorder.draw count = .ok drawn) : ∃ stats,
    (recorder.active = none ∧ drawn = { recorder with stats := stats }) ∨
      ∃ pass total, recorder.active = some pass ∧ total.toNat = pass.drawCalls.toNat + count.toNat ∧
        drawn = { recorder with stats := stats, active := some { pass with drawCalls := total } } := by
  unfold draw at ran
  split at ran
  · cases ran
  · next total sum =>
    refine ⟨{ recorder.stats with drawCalls := total }, ?_⟩
    cases opened : recorder.active with
    | none =>
      simp only [opened] at ran
      cases ran
      exact .inl ⟨rfl, rfl⟩
    | some pass =>
      simp only [opened] at ran
      cases added : Word.add pass.drawCalls count with
      | error reason =>
        rw [added] at ran
        cases ran
      | ok calls =>
        rw [added] at ran
        cases ran
        exact .inr ⟨pass, calls, rfl, Word.add_eq_ok added, rfl⟩

theorem sound_draw (sound : recorder.Sound profiled) (count : UInt64) {drawn : Recorder}
    (fits : recorder.draw count = .ok drawn) :
    drawn.Sound profiled ∧ drawn.raw = recorder.raw ∧ drawn.stream = recorder.stream ∧
      drawn.openAt = recorder.openAt := by
  obtain ⟨stats, ⟨opened, rfl⟩ | ⟨pass, total, opened, _, rfl⟩⟩ := draw_cases fits
  · exact ⟨⟨sound.active, sound.suspended, sound.records⟩, rfl, rfl, rfl⟩
  · refine ⟨⟨?_, sound.suspended, sound.records⟩, rfl, rfl, by simp [openAt, opened]⟩
    intro next same
    cases same
    exact ⟨(sound.active pass opened).captured, (sound.active pass opened).standing⟩

theorem sound_record (sound : recorder.Sound profiled) (workload : Workload) (capture : Bool)
    (decided : capture = true → profiled = true) :
    (recorder.record workload capture).2.Sound profiled ∧
      Stream.Step recorder.openAt recorder.stream (recorder.record workload capture).1
        (recorder.record workload capture).2.stream ∧
      ((recorder.record workload capture).1 = true → profiled = true) ∧
      ∀ record, recorder.stream.news (recorder.record workload capture).2.stream = some record →
        record.workload = workload ∧ isPass workload = false := by
  have unchanged : ∀ record, recorder.stream.news recorder.stream = some record →
      record.workload = workload ∧ isPass workload = false := by
    intro record new
    rw [Stream.news_same] at new
    cases new
  unfold record
  by_cases part : isPass workload = true
  · rw [if_pos part]
    exact ⟨sound, .same, fun never => (nomatch never), unchanged⟩
  · rw [if_neg part]
    have counted : Sound { recorder with stats := recorder.stats.count workload } profiled :=
      ⟨sound.active, sound.suspended, sound.records⟩
    cases capture with
    | false => exact ⟨counted, .same, fun never => (nomatch never), unchanged⟩
    | true =>
      -- What is no render pass part traps as soon as it is recorded.
      have whole : workload.traps = true ∧ workload.suspends = false := by
        cases workload <;> first | exact ⟨rfl, rfl⟩ | exact absurd rfl part
      refine ⟨sound_push counted workload fun _ => ⟨whole.2, decided rfl⟩, .sampled _ whole.1, decided, ?_⟩
      intro record new
      have added : recorder.stream.news (recorder.stream ++ [⟨workload, recorder.labels.snapshot⟩]) = some record := new
      rw [Stream.news_concat] at added
      split at added
      · cases added
        exact ⟨rfl, by simpa using part⟩
      · cases added

end Recorder

section Overflows

theorem add_not_blocked {a b : UInt64} {reason : Halt} (stopped : Word.add a b = .error reason) :
    reason ≠ .blocked := by
  unfold Word.add at stopped
  split at stopped <;> cases stopped
  exact Halt.noConfusion

theorem mul_not_blocked {a b : UInt64} {reason : Halt} (stopped : Word.mul a b = .error reason) :
    reason ≠ .blocked := by
  unfold Word.mul at stopped
  split at stopped <;> cases stopped
  exact Halt.noConfusion

theorem map_error {α β : Type} {result : Except Halt α} {change : α → β} {reason : Halt}
    (stopped : result.map change = .error reason) : result = .error reason := by
  cases result with
  | ok value => cases stopped
  | error other =>
    cases stopped
    rfl

theorem pixels_not_blocked {extent : Extent} {layers : UInt32} {reason : Halt}
    (stopped : extent.pixels layers = .error reason) : reason ≠ .blocked := by
  unfold Extent.pixels at stopped
  split at stopped
  · exact mul_not_blocked stopped
  · next halt inner =>
    cases stopped
    unfold Extent.texels at inner
    split at inner
    · exact mul_not_blocked inner
    · next halt area =>
      cases inner
      exact mul_not_blocked area

theorem each_pixels_not_blocked {regions : List ImageRegion} {reason : Halt}
    (stopped : ImageRegion.eachPixels regions = .error reason) : reason ≠ .blocked := by
  induction regions with
  | nil => cases stopped
  | cons region rest ih =>
    unfold ImageRegion.eachPixels at stopped
    split at stopped
    · exact ih (map_error stopped)
    · next halt inner =>
      cases stopped
      exact pixels_not_blocked inner

theorem clear_pixels_not_blocked {extent : Option Extent} {layers : UInt32} {reason : Halt}
    (stopped : Command.clearPixels extent layers = .error reason) : reason ≠ .blocked := by
  cases extent with
  | none => cases stopped
  | some extent => exact pixels_not_blocked (map_error stopped)

theorem workload_not_blocked {recorded : Command} {reason : Halt}
    (stopped : recorded.workload = .error reason) : reason ≠ .blocked := by
  cases recorded <;>
    first
    | cases stopped
    | exact clear_pixels_not_blocked (map_error stopped)
    | exact each_pixels_not_blocked (map_error (map_error stopped))

theorem draw_not_blocked {recorder : Recorder} {count : UInt64} {reason : Halt}
    (stopped : recorder.draw count = .error reason) : reason ≠ .blocked := by
  unfold Recorder.draw at stopped
  split at stopped
  · next halt inner =>
    cases stopped
    exact add_not_blocked inner
  · split at stopped
    · cases stopped
    · exact add_not_blocked (map_error stopped)

end Overflows

namespace Recording

inductive Effect (s : Recording) (mode : CaptureMode) : Command → Bool → Recorder → Prop
  | pushed (label : String) : Effect s mode (.beginDebugLabel label) false (s.recorder.pushLabel label)
  | popped : Effect s mode .endDebugLabel false s.recorder.popLabel
  | begun (begun : RenderPassBegin) (afresh : begun.flags.resuming = false) :
      Effect s mode (.beginRenderPass begun) false (s.recorder.beginPass s.tags.next begun mode)
  | resumed (begun : RenderPassBegin) (resumes : begun.flags.resuming = true) :
      Effect s mode (.beginRenderPass begun) false (s.recorder.resumePass begun mode)
  | ended : Effect s mode .endRenderPass s.recorder.endPass.1.needsTrap s.recorder.endPass.2
  | drawn (recorded : Command) (count : UInt64) (next : Recorder) (counts : recorded.drawCount = some count)
      (ran : s.recorder.draw count = .ok next) : Effect s mode recorded false next
  | worked (recorded : Command) (workload : Workload) (works : recorded.workload = .ok (some workload)) :
      Effect s mode recorded (s.recorder.record workload mode.captures).1 (s.recorder.record workload mode.captures).2
  | other (name : String) : Effect s mode (.other name) false s.recorder

theorem ends_draw (s : Recording) (mode : CaptureMode) {recorded : Command} {count : UInt64}
    (counts : recorded.drawCount = some count) :
    Act.Ends (draw count) s
      (fun shown _ next => (∀ event ∈ shown, event.isNote = true) ∧ Effect s mode recorded false next.recorder)
      (fun shown reason => (∀ event ∈ shown, event.isNote = true) ∧ reason ≠ .blocked) := by
  simp only [draw, Act.ends_bind, Act.ends_get, Act.ends_check, Act.ends_set]
  refine ⟨?_, fun reason stopped => ⟨by simp, draw_not_blocked stopped⟩⟩
  exact fun next ran => ⟨by simp, .drawn recorded count next counts ran⟩

theorem ends_work (s : Recording) (mode : CaptureMode) {recorded : Command} (works : recorded.workload ≠ .ok none) :
    Act.Ends
      (do match ← Act.check recorded.workload with
          | some workload => record workload mode.captures
          | none => pure false) s
      (fun shown stops next => (∀ event ∈ shown, event.isNote = true) ∧ Effect s mode recorded stops next.recorder)
      (fun shown reason => (∀ event ∈ shown, event.isNote = true) ∧ reason ≠ .blocked) := by
  rw [Act.ends_bind, Act.ends_check]
  refine ⟨?_, fun reason stopped => ⟨by simp, workload_not_blocked stopped⟩⟩
  intro found known
  cases found with
  | none => exact absurd known works
  | some workload =>
    simp only [record, Act.ends_bind, Act.ends_get, Act.ends_note_if, Act.ends_set, Act.ends_pure]
    refine ⟨?_, .worked recorded workload known⟩
    split <;> simp [Event.isNote]

theorem ends_effect (s : Recording) (recorded : Command) (mode : CaptureMode) :
    Act.Ends (command recorded mode) s
      (fun shown stops next => (∀ event ∈ shown, event.isNote = true) ∧ Effect s mode recorded stops next.recorder)
      (fun shown reason => (∀ event ∈ shown, event.isNote = true) ∧ reason ≠ .blocked) := by
  cases recorded with
  | beginDebugLabel label =>
    simp only [command, update, Act.ends_bind, Act.ends_modify, Act.ends_pure]
    exact ⟨by simp, .pushed label⟩
  | endDebugLabel =>
    simp only [command, popLabel, update, Act.ends_bind, Act.ends_get, Act.ends_note_if, Act.ends_modify,
      Act.ends_pure]
    refine ⟨?_, .popped⟩
    split <;> simp [Event.isNote]
  | beginRenderPass begun =>
    cases resumes : begun.flags.resuming with
    | true =>
      simp only [command, beginPass, resumes, if_true, Act.ends_bind, Act.ends_get, Act.ends_set, Act.ends_pure]
      exact ⟨by simp, .resumed begun resumes⟩
    | false =>
      simp only [command, beginPass, resumes, Bool.false_eq_true, if_false, Act.ends_bind, Act.ends_get,
        Act.ends_set, Act.ends_pure]
      exact ⟨by simp, .begun begun resumes⟩
  | endRenderPass =>
    simp only [command, endPass, Act.ends_bind, Act.ends_get, Act.ends_set, Act.ends_pure]
    exact ⟨by simp, .ended⟩
  | draw vertices instances =>
    simp only [command, Command.drawCount, Act.ends_bind]
    exact Act.ends_mono (ends_draw s mode rfl) (fun _ _ _ both => by simpa using both) (fun _ _ both => both)
  | drawIndirect draws =>
    simp only [command, Command.drawCount, Act.ends_bind]
    exact Act.ends_mono (ends_draw s mode rfl) (fun _ _ _ both => by simpa using both) (fun _ _ both => both)
  | other name => exact ⟨fun _ shown => absurd shown List.not_mem_nil, .other name⟩
  | clearColorImage | clearDepthStencilImage | copyImage | blitImage | resolveImage | copyBufferToImage
  | copyImageToBuffer => exact ends_work s mode (Command.image_works _ _)
  | _ => exact ends_work s mode (by simp [Command.workload])

structure Follows (s : Recording) (recorded : Command) (profiled : Bool) (stops : Bool) (next : Recording) : Prop where
  sound : next.recorder.Sound profiled
  raw : next.recorder.raw = s.recorder.raw
  step : Stream.Step s.recorder.openAt s.recorder.stream stops next.recorder.stream
  decided : stops = true → profiled = true
  accounts : ∀ record, s.recorder.stream.news next.recorder.stream = some record → recorded.Accounts record
  order : s.recorder.InOrder → (s.recorder.active.isSome = true → recorded.fitsPass = true) → next.recorder.InOrder

theorem follows_unsampled {s next : Recording} {recorded : Command} {profiled : Bool}
    (sound : next.recorder.Sound profiled) (raw : next.recorder.raw = s.recorder.raw)
    (step : Stream.Step s.recorder.openAt s.recorder.stream false next.recorder.stream)
    (order : s.recorder.InOrder → next.recorder.InOrder) : Follows s recorded profiled false next := by
  refine ⟨sound, raw, step, fun never => (nomatch never), ?_, fun ordered _ => order ordered⟩
  intro record new
  have none := Stream.step_news step
  rw [new] at none
  cases none

theorem follows_effect {s next : Recording} {profiled : Bool} (sound : s.recorder.Sound profiled) {recorded : Command}
    {mode : CaptureMode} {stops : Bool} (decided : mode.captures = true → profiled = true)
    (effect : Effect s mode recorded stops next.recorder) : Follows s recorded profiled stops next := by
  obtain ⟨recorder, used⟩ := next
  cases effect with
  | pushed label => exact follows_unsampled ⟨sound.active, sound.suspended, sound.records⟩ rfl .same id
  | popped => exact follows_unsampled ⟨sound.active, sound.suspended, sound.records⟩ rfl .same id
  | begun begun afresh =>
    obtain ⟨kept, step⟩ := Recorder.sound_begin_pass sound s.tags.next begun mode decided
    exact follows_unsampled kept (Recorder.raw_open_pass ..) step fun _ => Recorder.in_order_open_pass _ _ _ _ _ _
  | resumed begun resumes =>
    obtain ⟨kept, step⟩ := Recorder.sound_resume_pass sound begun mode decided
    exact follows_unsampled kept (Recorder.raw_open_pass ..) step fun _ => Recorder.in_order_open_pass _ _ _ _ _ _
  | ended =>
    obtain ⟨kept, step, stops, sampled⟩ := Recorder.sound_end_pass sound
    refine ⟨kept, Recorder.raw_end_pass _, step, stops, ?_, fun ordered _ => Recorder.in_order_end_pass ordered⟩
    intro record new
    rw [Command.Accounts, if_pos (sampled record new)]
  | drawn _ count _ _ ran =>
    obtain ⟨kept, raw, stream, still⟩ := Recorder.sound_draw sound count ran
    exact follows_unsampled kept raw (stream ▸ .same) fun ordered => Recorder.in_order_same ordered still stream
  | worked _ workload works =>
    obtain ⟨kept, step, stops, sampled⟩ := Recorder.sound_record sound workload mode.captures decided
    refine ⟨kept, Recorder.raw_record .., step, stops, ?_, ?_⟩
    · intro record new
      obtain ⟨same, whole⟩ := sampled record new
      simp [Command.Accounts, same, whole, works]
    · -- Work does not fit an open part, so where the records are to stay in order none is open.
      intro _ fits
      have closed : s.recorder.active = none := by
        cases opened : s.recorder.active with
        | none => rfl
        | some pass =>
          rw [opened, Command.work_outside works] at fits
          exact absurd (fits rfl) Bool.false_ne_true
      exact Recorder.in_order_closed ((Recorder.active_record ..).trans closed)
  | other => exact follows_unsampled sound rfl .same id

theorem ends_command {s : Recording} {profiled : Bool} (sound : s.recorder.Sound profiled) (recorded : Command)
    {mode : CaptureMode} (decided : mode.captures = true → profiled = true) :
    Act.Ends (command recorded mode) s
      (fun shown stops next => (∀ event ∈ shown, event.isNote = true) ∧ Follows s recorded profiled stops next)
      (fun shown reason => (∀ event ∈ shown, event.isNote = true) ∧ reason ≠ .blocked) := by
  refine Act.ends_mono (ends_effect s recorded mode) ?_ fun _ _ stopped => stopped
  intro shown stops next both
  exact ⟨both.1, follows_effect sound decided both.2⟩

theorem ends_raw (call : RecorderCall) (s : Recording) :
    Act.Ends (perform call) s (fun _ _ next => next.recorder.raw = s.recorder.raw) (fun _ _ => True) := by
  cases call with
  | start | finish | reset | pushLabel | append => rfl
  | popLabel =>
    simp only [perform, popLabel, update, Act.ends_bind, Act.ends_get, Act.ends_note_if, Act.ends_modify, Act.ends_pure]
    rfl
  | beginPass begun mode =>
    simp only [perform, beginPass, Act.ends_bind, Act.ends_get]
    split
    · exact Recorder.raw_open_pass _ begun.flags mode _ _ _
    · exact Recorder.raw_open_pass _ begun.flags mode _ _ _
  | endPass => exact Recorder.raw_end_pass s.recorder
  | draw count =>
    simp only [perform, draw, Act.ends_bind, Act.ends_get, Act.ends_check, Act.ends_set, Act.ends_pure]
    refine ⟨fun drawn counted => ?_, fun _ _ => trivial⟩
    obtain ⟨stats, ⟨_, rfl⟩ | ⟨pass, total, _, _, rfl⟩⟩ := Recorder.draw_cases counted <;> rfl
  | record workload capture =>
    simp only [perform, record, Act.ends_bind, Act.ends_get, Act.ends_note_if, Act.ends_set, Act.ends_pure]
    exact Recorder.raw_record s.recorder workload capture

end Recording

end GpuProfiler
