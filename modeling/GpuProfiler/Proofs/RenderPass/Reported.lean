import GpuProfiler.Proofs.Layer.Attribution
import GpuProfiler.Proofs.RenderPass.Chain
import GpuProfiler.Proofs.RenderPass.Transcript
import GpuProfiler.Proofs.Trap.Visits

set_option autoImplicit false

namespace GpuProfiler

-- Where a pass stands in a submission: the pieces before its own, its own but the end of the last
-- part, and those behind; the same of the records, with that of the last part.
structure PassPlace where
  lead : List Piece
  own : List Piece
  rest : List Piece
  front : Stream
  stream : Stream
  record : Record
  back : Stream

-- Of the commands of the pass only those for other work are stopped after, but for the end of it.
structure PassPlace.Orderly (place : PassPlace) : Prop where
  order : place.stream.filter Record.traps = Piece.sampledIn place.own
  others : ∀ other ∈ Piece.sampledIn place.own, Recorder.isPass other.workload = false

namespace DictatedPass

variable {pass : DictatedPass} {place : PassPlace} {ahead behind : List Mark} {pieces : List Piece} {records : Stream}

-- The device stops for the record of the pass, where its last part ends, if the decider was begun
-- while workloads were captured.
structure Stands (pass : DictatedPass) (ahead : List Mark) (pieces : List Piece) (records : Stream) (place : PassPlace) :
    Prop where
  pieces : pieces = place.lead ++ (place.own ++ Piece.ending place.record :: place.rest)
  lead : place.lead.map (·.recorded) = ahead.flatMap Mark.commands
  own : (place.own ++ [Piece.ending place.record]).map (·.recorded) = pass.marks.flatMap Mark.commands
  records : records = place.front ++ (place.stream ++ place.record :: place.back)
  level : (Piece.sampledIn place.lead).length = place.front.trapped
  part : Recorder.isPass place.record.workload = true
  traps : place.record.traps = pass.decider.mode.captures

theorem takes_place (proper : pass.Proper) (kept : pass.first.suspends = true ∨ pass.first.mode.captures = true)
    {start last : Dictation} (sound : start.recorder.Sound true) (empty : start.records = [])
    (takes : Dictation.Takes true start (ahead ++ (pass.marks ++ behind)) pieces last) :
    ∃ place, pass.Stands ahead pieces last.records place ∧
      place.stream.Reports place.record pass.first.opener pass.draws false ∧ (pass.Lone → place.Orderly) := by
  obtain ⟨first, lead, _, rfl, before, takes⟩ := Dictation.takes_split takes
  obtain ⟨next, own, rest, rfl, parts, after⟩ := Dictation.takes_split takes
  obtain ⟨sound, level⟩ := Dictation.takes_sound sound before
  obtain ⟨quiet, stream, record, tail, passed, rfl⟩ := Dictation.takes_pass proper kept parts
  have still := (Dictation.takes_sound sound parts).1
  obtain ⟨back, whole⟩ := (Dictation.takes_done still (Dictation.done_idle passed.active) after).ahead
  refine ⟨⟨lead, quiet, rest, first.records, stream, record, tail ++ back⟩, ⟨?_, ?_, ?_, ?_, ?_, passed.part, passed.traps⟩,
    passed.reports, fun lone => ⟨passed.order lone, passed.others lone⟩⟩
  · simp
  · exact Dictation.takes_commands before
  · exact Dictation.takes_commands parts
  · rw [← whole, passed.records]
    simp
  · rw [level, empty]
    exact (Nat.zero_add _).symm

-- What a submission with a pass shows, taken apart into its samplings: those of the records before it,
-- of the other work in its course, of the pass itself, and of the records behind it, which resume no
-- pass that was begun before. The pass is reported as its first part was begun, with the draws of all.
structure Reported (pass : DictatedPass) (device : ProfiledDevice) (place : PassPlace) (shown before : List Event)
    (samplings earlier between own later : List Sampling) (after : List Event) : Prop where
  split : shown = before ++ (samplings.flatMap Sampling.shown ++ after)
  told : Event.workloads shown = samplings.filterMap Sampling.message?
  resumed : (Event.steps shown).count (.resume device.events.hostToDevice) = samplings.length
  parts : samplings = earlier ++ (between ++ (own ++ later))
  front : earlier.map (·.visited.record) = place.front.filter Record.traps
  stream : between.map (·.visited.record) = place.stream.filter Record.traps
  back : later.map (·.visited.record) = place.back.filter Record.traps
  apart : ∀ sampling ∈ later, ∀ resumed, sampling.visited.resumed = some resumed →
    ∃ ahead rest : Stream, place.back = ahead ++ sampling.visited.record :: rest ∧
      Cursor.Begun (ahead ++ [sampling.visited.record]) resumed
  once : pass.decider.mode.captures = true → ∃ sampling drawCalls, own = [sampling] ∧
    sampling.visited.record = place.record ∧ drawCalls.toNat = pass.draws ∧
    sampling.message? = some (.workload place.record.labels sampling.parts.counters
      (.renderPass pass.first.tag pass.first.begun.width pass.first.begun.height pass.first.begun.attachments drawCalls))
  never : pass.decider.mode.captures = false → own = []

-- The device stands behind the end of the last part when it is sampled there.
def Attributed (device : ProfiledDevice) (operations : List DeviceOp) (place : PassPlace) (before : List Event)
    (own : List Sampling) : Prop :=
  ∀ sampling ∈ own, sampling.Attributed device operations before (place.lead ++ place.own)
    ⟨.endRenderPass, some place.record⟩ place.rest (place.front ++ place.stream)

section Samplings

variable {s : DeviceScope} {before shown : List Event} {sampler : Sampler} {items : Timeline} {sampling : Sampling}
  {samplings : List Sampling}

theorem message_completed (reports : place.stream.Reports place.record pass.first.opener pass.draws false)
    (same : sampling.visited.record = place.record) (made : sampling.Made sampler items (place.front ++ place.stream) shown) :
    ∃ drawCalls, drawCalls.toNat = pass.draws ∧
      sampling.message? = some (.workload place.record.labels sampling.parts.counters
        (.renderPass pass.first.tag pass.first.begun.width pass.first.begun.height pass.first.begun.attachments drawCalls)) := by
  obtain ⟨_, _, _, _, ran, stepped, _, _⟩ := made.ran
  obtain ⟨_, met⟩ := Cursor.visits_of_run ran
  obtain ⟨_, _, _, _, behind, _⟩ := Cursor.visits_append_ok met
  rw [same] at stepped
  obtain ⟨drawCalls, sum, message, _⟩ := reports _ _ _ _ _ behind stepped
  exact ⟨drawCalls, sum, message _⟩

theorem attributed_completed (begins : DeviceScope.Begins s (Piece.timeline pieces) before sampler)
    (stands : pass.Stands ahead pieces records place) (orderly : place.Orderly)
    (accounts : ∀ piece ∈ pieces, ∀ record, piece.sampled = some record → piece.recorded.Accounts record)
    (stop : place.record.traps = true) (same : sampling.visited.record = place.record)
    (made : sampling.Made sampler (Piece.timeline pieces) (place.front ++ place.stream) shown) :
    sampling.Attributed s.device ((Piece.timeline pieces).ops s.device.events) (before ++ shown) (place.lead ++ place.own)
      ⟨.endRenderPass, some place.record⟩ place.rest (place.front ++ place.stream) := by
  have level : (Piece.sampledIn (place.lead ++ place.own)).length = (place.front ++ place.stream).trapped := by
    rw [Piece.sampled_in_append, List.length_append, stands.level, ← orderly.order, Stream.length_filter_traps,
      Stream.trapped_append]
  have whole : pieces = (place.lead ++ place.own) ++ ⟨.endRenderPass, some place.record⟩ :: place.rest := by
    rw [stands.pieces, Piece.ending, if_pos stop, List.append_assoc]
  rw [whole] at begins accounts made ⊢
  exact DeviceScope.attributed_at begins (accounts _ (by simp)) (congrArg some same.symm) level made

-- Behind the pass nothing is left suspended, so what is resumed there was begun there.
theorem resumed_behind (reports : place.stream.Reports place.record pass.first.opener pass.draws false) {rest : Stream}
    (made : sampling.Made sampler items (place.front ++ (place.stream ++ place.record :: rest)) shown) {resumed : RenderPass}
    (known : sampling.visited.resumed = some resumed) : Cursor.Begun (rest ++ [sampling.visited.record]) resumed := by
  obtain ⟨_, _, _, _, ran, met, _, _⟩ := made.ran
  rw [Cursor.run_append] at ran
  obtain ⟨_, _, _, _, _, ran, _⟩ := Act.bind_ok ran
  rw [Cursor.run_append] at ran
  obtain ⟨_, _, _, _, parts, ran, _⟩ := Act.bind_ok ran
  obtain ⟨_, ⟨suspended⟩, _, _, _, stepped, _, onward, _⟩ := Cursor.cons_run_ok ran
  obtain ⟨_, through⟩ := Cursor.visits_of_run parts
  obtain ⟨_, _, _, rfl⟩ := reports _ _ _ _ _ through stepped
  exact ((Cursor.step_knows (Cursor.run_knows onward) met).2 resumed known).2

theorem apart_behind (stands : pass.Stands ahead pieces records place)
    (reports : place.stream.Reports place.record pass.first.opener pass.draws false) (samples : Sampler.Samples samplings sampler items records)
    {count : Nat} (there : samplings[count]? = some sampling)
    (enough : Stream.trapped (place.front ++ (place.stream ++ [place.record])) ≤ count) {resumed : RenderPass}
    (known : sampling.visited.resumed = some resumed) : ∃ ahead rest : Stream,
      place.back = ahead ++ sampling.visited.record :: rest ∧ Cursor.Begun (ahead ++ [sampling.visited.record]) resumed := by
  obtain ⟨met, rest, split, traps, rank, made⟩ := samples count sampling there
  have behind : (place.front ++ (place.stream ++ [place.record])) ++ place.back = met ++ sampling.visited.record :: rest := by
    rw [← split, stands.records]
    simp
  obtain ⟨ahead, rfl, back⟩ := Stream.place_behind behind traps (by rwa [rank])
  exact ⟨ahead, rest, back, resumed_behind reports (by simpa using made) known⟩

theorem length_samplings {stream : Stream} (mapped : samplings.map (·.visited.record) = stream.filter Record.traps) :
    samplings.length = stream.trapped := by
  rw [← List.length_map (·.visited.record), mapped, Stream.length_filter_traps]

-- Samplings, one for each record that is stopped after, by the place of the record.
structure Divided (place : PassPlace) (samplings earlier between own later : List Sampling) : Prop where
  whole : samplings = earlier ++ (between ++ (own ++ later))
  front : earlier.map (·.visited.record) = place.front.filter Record.traps
  stream : between.map (·.visited.record) = place.stream.filter Record.traps
  own : own.map (·.visited.record) = if place.record.traps then [place.record] else []
  back : later.map (·.visited.record) = place.back.filter Record.traps

section Divided

variable {earlier between own later : List Sampling} (divided : Divided place samplings earlier between own later)

include divided

theorem divided_ahead : (earlier ++ between).length = (place.front ++ place.stream).trapped := by
  rw [List.length_append, length_samplings divided.front, length_samplings divided.stream, Stream.trapped_append]

theorem divided_sampled (stop : place.record.traps = true) : ∃ sampling, own = [sampling] ∧ sampling.visited.record = place.record := by
  have own := divided.own
  rwa [if_pos stop, List.map_eq_singleton_iff] at own

theorem divided_silent (silent : place.record.traps = false) : own = [] := by
  have own := divided.own
  rwa [silent, if_neg Bool.false_ne_true, List.map_eq_nil_iff] at own

-- The sampling of the pass is made behind all records before that of its last part.
theorem divided_completed (stands : pass.Stands ahead pieces records place) (samples : Sampler.Samples samplings sampler items records)
    (stop : place.record.traps = true) (single : own = [sampling]) :
    sampling.Made sampler items (place.front ++ place.stream) ((earlier ++ between).flatMap Sampling.shown) := by
  have there : samplings[(earlier ++ between).length]? = some sampling := by simp [divided.whole, single]
  obtain ⟨met, rest, split, traps, rank, made⟩ := samples _ sampling there
  have both : met ++ sampling.visited.record :: rest = (place.front ++ place.stream) ++ place.record :: place.back := by
    rw [← split, stands.records, List.append_assoc]
  obtain ⟨rfl, _⟩ := Stream.place_unique both traps stop (by rw [rank, divided_ahead divided])
  rwa [divided.whole, ← List.append_assoc, List.take_left] at made

theorem divided_apart (stands : pass.Stands ahead pieces records place)
    (reports : place.stream.Reports place.record pass.first.opener pass.draws false)
    (samples : Sampler.Samples samplings sampler items records) (member : sampling ∈ later) {resumed : RenderPass}
    (known : sampling.visited.resumed = some resumed) : ∃ ahead rest : Stream,
      place.back = ahead ++ sampling.visited.record :: rest ∧ Cursor.Begun (ahead ++ [sampling.visited.record]) resumed := by
  obtain ⟨fore, rest, rfl⟩ := List.append_of_mem member
  have rank : own.length = place.record.traps.toNat := by
    rw [← List.length_map (·.visited.record), divided.own]
    cases place.record.traps <;> rfl
  have there : samplings[(earlier ++ between).length + (own.length + fore.length)]? = some sampling := by
    simp [divided.whole, Nat.add_assoc]
  refine apart_behind stands reports samples there ?_ known
  rw [← List.append_assoc, Stream.trapped_append, ← divided_ahead divided, Stream.trapped_singleton, rank]
  omega

end Divided

theorem samplings_split (stands : pass.Stands ahead pieces records place)
    (mapped : samplings.map (·.visited.record) = records.filter Record.traps) :
    ∃ earlier between own later, Divided place samplings earlier between own later := by
  have four : samplings.map (·.visited.record) = place.front.filter Record.traps ++ (place.stream.filter Record.traps ++
      ((if place.record.traps then [place.record] else []) ++ place.back.filter Record.traps)) := by
    rw [mapped, stands.records, List.filter_append, List.filter_append, List.filter_cons]
    split <;> rfl
  obtain ⟨earlier, _, rfl, front, four⟩ := List.map_eq_append_iff.mp four
  obtain ⟨between, _, rfl, stream, four⟩ := List.map_eq_append_iff.mp four
  obtain ⟨own, later, rfl, here, back⟩ := List.map_eq_append_iff.mp four
  exact ⟨earlier, between, own, later, rfl, front, stream, here, back⟩

theorem replay_reports {during : List Event} {last : Sampler} {cursor : Cursor}
    (begins : DeviceScope.Begins s (Piece.timeline pieces) before sampler) (stands : pass.Stands ahead pieces records place)
    (reports : place.stream.Reports place.record pass.first.opener pass.draws false)
    (stops : (Piece.sampledIn pieces).length = records.trapped)
    (accounts : ∀ piece ∈ pieces, ∀ record, piece.sampled = some record → piece.recorded.Accounts record)
    (ran : Cursor.fresh.run Sampler.visit records sampler = ⟨during, .ok (cursor, last)⟩) :
    ∃ samplings earlier between own later notes,
      pass.Reported s.device place (before ++ during) before samplings earlier between own later notes ∧
      (place.Orderly → Attributed s.device ((Piece.timeline pieces).ops s.device.events) place
        (before ++ (earlier ++ between).flatMap Sampling.shown) own) := by
  have traps : (Piece.timeline pieces).traps = records.trapped := (Piece.traps_timeline _).trans stops
  have events : sampler.trap.events = s.device.events := (ProfiledDevice.events_of_trap begins.trap).symm
  obtain ⟨samplings, notes, rfl, plain, _, whole, went, samples⟩ :=
    Sampler.run_sampled begins.standing (Nat.le_of_eq traps.symm) ran
  have many := whole rfl
  obtain ⟨earlier, between, own, later, divided⟩ := samplings_split stands (Sampler.samples_records samples many)
  refine ⟨samplings, earlier, between, own, later, notes,
    ⟨rfl, ?_, ?_, divided.whole, divided.front, divided.stream, divided.back, ?_, ?_, ?_⟩, ?_⟩
  · rw [Event.workloads_append, begins.untold, Event.workloads_append, Sampler.workloads_samples samples,
      quiet_workloads (quiet_notes plain), List.append_nil, List.nil_append]
  · rw [events] at went
    rw [Event.steps_append, begins.steps, went]
    exact Timeline.count_through _ (by omega)
  · exact fun sampling member resumed known => divided_apart divided stands reports samples member known
  · intro captured
    have stop := stands.traps.trans captured
    obtain ⟨sampling, single, same⟩ := divided_sampled divided stop
    obtain ⟨drawCalls, sum, message⟩ :=
      message_completed reports same (divided_completed divided stands samples stop single)
    exact ⟨sampling, drawCalls, single, same, sum, message⟩
  · exact fun uncaptured => divided_silent divided (stands.traps.trans uncaptured)
  · intro orderly sampling member
    cases stop : place.record.traps with
    | true =>
      obtain ⟨_, single, same⟩ := divided_sampled divided stop
      rw [single] at member
      obtain rfl := List.mem_singleton.mp member
      exact attributed_completed begins stands orderly accounts stop same
        (divided_completed divided stands samples stop single)
    | false =>
      rw [divided_silent divided stop] at member
      cases member

end Samplings

theorem reported_none (stands : pass.Stands ahead pieces records place) {device : ProfiledDevice} {shown : List Event}
    (none : records.trapped = 0) (untold : Event.workloads shown = [])
    (still : (Event.steps shown).count (.resume device.events.hostToDevice) = 0) :
    pass.Reported device place shown shown [] [] [] [] [] [] := by
  rw [stands.records, ← List.singleton_append, Stream.trapped_append, Stream.trapped_append, Stream.trapped_append,
    Stream.trapped_singleton] at none
  have empty {stream : Stream} (silent : stream.trapped = 0) : [] = stream.filter Record.traps :=
    (List.length_eq_zero_iff.mp ((Stream.length_filter_traps stream).trans silent)).symm
  have uncaptured : pass.decider.mode.captures = false := by
    rw [← stands.traps, ← Bool.toNat_eq_zero]
    omega
  refine ⟨by simp, untold, still, rfl, empty (by omega), empty (by omega), empty (by omega), List.forall_mem_nil _, ?_,
    fun _ => rfl⟩
  rw [uncaptured]
  exact fun never => (nomatch never)

theorem reported_quiet {device : ProfiledDevice} {shown before after more : List Event}
    {samplings earlier between own later : List Sampling}
    (reported : pass.Reported device place shown before samplings earlier between own later after) (quiet : Quiet more) :
    pass.Reported device place (shown ++ more) before samplings earlier between own later (after ++ more) := by
  refine { reported with split := ?_, told := ?_, resumed := ?_ }
  · rw [reported.split, List.append_assoc, List.append_assoc]
  · rw [Event.workloads_append, quiet_workloads quiet, List.append_nil, reported.told]
  · rw [Event.steps_append, quiet_steps quiet, List.append_nil, reported.resumed]

end DictatedPass

def LayerStep.dictated (steps : List LayerStep) (submissions : List Submission) : List Mark :=
  (submissions.flatMap (·.buffers)).flatMap (transcript steps)

namespace Layer

variable {config : Config} {endpoint : ShowingEndpoint} {steps : List LayerStep} {layer : Layer} {queue : QueueId}
  {submissions : List Submission} {device : ProfiledDevice} {shown : List Event} {outcome : Except Halt (LayerReply × Layer)}

theorem resolved_dictation (run : Run (DisciplinedOn queue.device) (fresh config endpoint) steps layer)
    (here : layer.devices.get? queue.device = some device) (resolves : Resolves device queue submissions) :
    ∃ last, Dictation.Takes device.isProfiling ⟨[], .new 0 .primary⟩ (LayerStep.dictated steps submissions)
      (LayerStep.submitted steps submissions) last ∧ last.records = layer.recordsOf submissions := by
  obtain ⟨last, takes, records⟩ := takes_buffers (run_transcribes run device here) resolves ⟨[], .new 0 .primary⟩
  refine ⟨last, takes, ?_⟩
  rw [records, recordsOf, streams_in_device here fun buffer member => (resolves buffer member).1]
  rfl

-- What is accepted is carried out, as long as the totals of draws fit their words.
theorem accepted_submission (run : Run (DisciplinedOn queue.device) (fresh config endpoint) steps layer)
    (here : layer.devices.get? queue.device = some device)
    (totals : (Cursor.fresh.visits (layer.recordsOf submissions)).isOk = true)
    (made : perform (.submit queue submissions) layer = ⟨shown, outcome⟩)
    (accepted : ∀ error next, outcome ≠ .ok (.failed error, next)) :
    ∃ next scope, outcome = .ok (.done, next) ∧ next.devices.get? queue.device = some scope.device ∧
      device.Level False (fun handle => LayerStep.books steps ⟨queue.device, handle⟩) ∧ Resolves device queue submissions ∧
      DeviceScope.Submitted ⟨device, layer.shared⟩ (Piece.timeline (LayerStep.submitted steps submissions))
        (layer.recordsOf submissions) shown (.ok ()) scope := by
  have level : device.Level False fun handle => LayerStep.books steps ⟨queue.device, handle⟩ :=
    run_level_on run (fun _ _ disciplined => ⟨disciplined, fun never => never.elim⟩) device here
  have ends := ends_submit submissions here ((run_sound run).registries _ device here) level
  rcases outcome with reason | ⟨reply, next⟩
  · obtain ⟨resolves, _, _, during, sampler, _, begins, ran⟩ := Act.ends_of_error ends made
    have traps := (Piece.traps_timeline _).trans (level_resolved here level resolves).1
    have overflows : Cursor.fresh.visits (layer.recordsOf submissions) = .error reason :=
      Act.ends_of_error (Sampler.ends_run_totals begins.standing (Nat.le_of_eq traps.symm) _) ran
    rw [overflows] at totals
    cases totals
  · obtain ⟨answer, scope, rfl, devices, resolves, submitted⟩ := Act.ends_of_ok ends made
    cases answer with
    | error error => exact absurd rfl (accepted error next)
    | ok _ =>
      refine ⟨next, scope, rfl, ?_, level, resolves rfl, submitted⟩
      rw [devices]
      exact Arena.get_set_here _ _ _ _ here

theorem accepted_pass (run : Run (DisciplinedOn queue.device) (fresh config endpoint) steps layer)
    (live : layer.device queue.device = .ok device) (profiling : device.isProfiling = true)
    {pass : DictatedPass} (proper : pass.Proper) (kept : pass.first.suspends = true ∨ pass.first.mode.captures = true)
    {ahead behind : List Mark} (dictated : LayerStep.dictated steps submissions = ahead ++ (pass.marks ++ behind))
    (totals : (Cursor.fresh.visits (layer.recordsOf submissions)).isOk = true)
    (made : perform (.submit queue submissions) layer = ⟨shown, outcome⟩)
    (accepted : ∀ error next, outcome ≠ .ok (.failed error, next)) :
    ∃ next moved place before samplings earlier between own later after,
      outcome = .ok (.done, next) ∧ next.device queue.device = .ok moved ∧
      moved.trapCycles = device.trapCycles + samplings.length ∧
      device.operationsOf submissions = (Piece.timeline (LayerStep.submitted steps submissions)).ops device.events ∧
      Event.steps shown = (Piece.timeline (LayerStep.submitted steps submissions)).steps device.events ∧
      pass.Stands ahead (LayerStep.submitted steps submissions) (layer.recordsOf submissions) place ∧
      pass.Reported device place shown before samplings earlier between own later after ∧
      (pass.Lone → place.Orderly ∧ DictatedPass.Attributed device (device.operationsOf submissions) place
        (before ++ (earlier ++ between).flatMap Sampling.shown) own) := by
  have here := (device_ok layer queue.device device).mp live
  obtain ⟨next, scope, rfl, there, level, resolves, submitted⟩ := accepted_submission run here totals made accepted
  obtain ⟨last, takes, records⟩ := resolved_dictation run here resolves
  rw [profiling, dictated] at takes
  obtain ⟨place, stands, reports, lone⟩ :=
    DictatedPass.takes_place proper kept (Recorder.sound_new 0 .primary) rfl takes
  rw [records] at stands
  obtain ⟨stops, _, accounts, ops⟩ := level_resolved here level resolves
  have operations : device.operationsOf submissions =
      (Piece.timeline (LayerStep.submitted steps submissions)).ops device.events := by
    rw [ProfiledDevice.operationsOf, LayerStep.submitted, ← ops, List.flatMap_map, List.flatMap_map]
  have whole : Event.steps shown = (Piece.timeline (LayerStep.submitted steps submissions)).steps device.events :=
    submitted.steps.trans (if_pos rfl)
  have count : (Event.steps shown).count (.resume device.events.hostToDevice) =
      (Piece.timeline (LayerStep.submitted steps submissions)).traps := by
    rw [whole]
    exact (Timeline.count_steps _ _).2.1
  have reports : ∃ before samplings earlier between own later after,
      pass.Reported device place shown before samplings earlier between own later after ∧
      (place.Orderly → DictatedPass.Attributed device (device.operationsOf submissions) place
        (before ++ (earlier ++ between).flatMap Sampling.shown) own) := by
    rcases Nat.eq_zero_or_pos (Piece.timeline (LayerStep.submitted steps submissions)).traps with none | some
    · have silent : Stream.trapped (layer.recordsOf submissions) = 0 :=
        stops.symm.trans ((Piece.traps_timeline _).symm.trans none)
      exact ⟨shown, [], [], [], [], [], [],
        DictatedPass.reported_none stands silent (submitted.untold (.inr none)) (count.trans none),
        fun _ => List.forall_mem_nil _⟩
    · obtain ⟨before, during, after, sampler, cursor, last, rfl, begins, quiet, ran⟩ := submitted.replayed rfl some
      obtain ⟨samplings, earlier, between, own, later, notes, reported, attributed⟩ :=
        DictatedPass.replay_reports begins stands reports stops accounts ran
      rw [operations, ← List.append_assoc]
      exact ⟨before, samplings, earlier, between, own, later, _, DictatedPass.reported_quiet reported quiet, attributed⟩
  obtain ⟨before, samplings, earlier, between, own, later, after, reported, attributed⟩ := reports
  refine ⟨next, scope.device, place, before, samplings, earlier, between, own, later, after, rfl,
    (device_ok next _ _).mpr there, ?_, operations, whole, stands, reported, fun alone => ⟨lone alone, attributed (lone alone)⟩⟩
  rw [← reported.resumed, count]
  exact submitted.cycles

end Layer

end GpuProfiler
