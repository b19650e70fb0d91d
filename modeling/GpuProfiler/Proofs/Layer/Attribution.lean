import GpuProfiler.Proofs.Layer.Level
import GpuProfiler.Proofs.Trap.Sampling

set_option autoImplicit false

namespace GpuProfiler

def DeviceOp.done : DeviceOp → DeviceStep
  | .work recorded => .work recorded
  | .set event => .set event
  | .wait event => .resume event
  | .reset event => .reset event

theorem Timeline.ops_done (events : TrapEvents) (items : Timeline) :
    (ops events items).map DeviceOp.done = steps events items := by
  induction items with
  | nil => rfl
  | cons item rest ih => cases item <;> simp [steps, ih, DeviceOp.done]

theorem Piece.sampled_split {pieces : List Piece} {earlier later : Stream} {record : Record}
    (split : sampledIn pieces = earlier ++ record :: later) :
    ∃ ahead piece behind, pieces = ahead ++ piece :: behind ∧ piece.sampled = some record ∧ sampledIn ahead = earlier := by
  obtain ⟨front, back, rfl, before, behind⟩ := List.filterMap_eq_append_iff.mp split
  obtain ⟨silent, piece, rest, rfl, none, here, _⟩ := List.filterMap_eq_cons_iff.mp behind
  refine ⟨front ++ silent, piece, rest, by simp, here, ?_⟩
  rw [sampled_in_append, show sampledIn front = earlier from before, show sampledIn silent = [] from List.filterMap_eq_nil_iff.mpr none,
    List.append_nil]

namespace LayerStep

def Records (step : LayerStep) (piece : Piece) : Prop :=
  ∃ buffer, step.call = .command buffer piece.recorded ∧
    piece.sampled = (step.before.streamOf buffer).news (step.after.streamOf buffer)

theorem extend_records {books : Books} {step : LayerStep} {buffer : BufferId} {piece : Piece}
    (member : piece ∈ extend books step buffer) : (∃ other, piece ∈ books other) ∨ step.Records piece := by
  unfold extend at member
  split at member
  · cases member
  · next recorder live =>
    split at member
    · split at member
      · cases member
      · exact .inl ⟨buffer, member⟩
    · split at member
      · cases member
      · exact .inl ⟨buffer, member⟩
    · next id recorded called =>
      split at member
      · next same =>
        subst same
        rcases List.mem_append.mp member with before | new
        · exact .inl ⟨id, before⟩
        · refine .inr ⟨id, ?_, ?_⟩
          · rw [List.mem_singleton.mp new, called]
          · have held : step.before.streamOf id = recorder.stream := by rw [Layer.streamOf, live]
            rw [List.mem_singleton.mp new, held]
      · exact .inl ⟨buffer, member⟩
    · next id secondaries called =>
      split at member
      · rcases List.mem_append.mp member with before | copied
        · exact .inl ⟨buffer, before⟩
        · obtain ⟨secondary, _, inside⟩ := List.mem_flatMap.mp copied
          exact .inl ⟨secondary, inside⟩
      · exact .inl ⟨buffer, member⟩
    · exact .inl ⟨buffer, member⟩

theorem books_records (steps : List LayerStep) (buffer : BufferId) :
    ∀ piece ∈ books steps buffer, ∃ step ∈ steps, step.Records piece := by
  induction steps using List.reverseRecOn generalizing buffer with
  | nil => exact fun _ member => (nomatch member)
  | append_singleton steps step ih =>
    intro piece member
    rw [books, List.foldl_append, List.foldl_cons, List.foldl_nil] at member
    rcases extend_records member with ⟨other, before⟩ | records
    · obtain ⟨first, listed, records⟩ := ih other piece before
      exact ⟨first, List.mem_append_left _ listed, records⟩
    · exact ⟨step, List.mem_append_right _ (List.mem_singleton.mpr rfl), records⟩

end LayerStep

namespace Sampling

-- A sampling on a device behind a piece of work and no other. Of the operations that were put
-- before the device it has done those up to the trap behind the piece, and waits there; what is
-- told is of the record of that piece, with what was read after this sample.
structure Attributed (sampling : Sampling) (device : ProfiledDevice) (operations : List DeviceOp) (before : List Event)
    (ahead : List Piece) (piece : Piece) (behind : List Piece) (earlier : Stream) : Prop where
  operations : operations = (Piece.timeline ahead).ops device.events ++
    .work piece.recorded :: .set device.events.deviceToHost :: sampling.stopped.driver.timeline
  parked : sampling.stopped.driver.timeline =
    .wait device.events.hostToDevice :: .reset device.events.hostToDevice :: (Piece.timeline behind).ops device.events
  unsignalled : device.events.hostToDevice ∉ sampling.stopped.driver.signalled
  executed : Event.steps (before ++ (sampling.met ++ sampling.parts.asked)) =
    ((Piece.timeline ahead).ops device.events ++
      [DeviceOp.work piece.recorded, DeviceOp.set device.events.deviceToHost]).map DeviceOp.done
  cycles : sampling.stopped.trap.cycles = device.trapCycles + (Piece.sampledIn ahead).length
  sampled : piece.sampled = some sampling.visited.record
  accounts : piece.recorded.Accounts sampling.visited.record
  resumed : ∀ pass, sampling.visited.resumed = some pass →
    (∃ part, sampling.visited.record.workload = .continuation part ∧
      (part.origin = none ∨ part.origin = some pass.tag)) ∧
    Cursor.Begun (earlier ++ [sampling.visited.record]) pass
  reached : ∃ start during cursor next reached, start.session = device.session ∧ device.trap = some start.trap ∧
    Cursor.fresh.run Sampler.visit earlier start = ⟨during, .ok (cursor, reached)⟩ ∧
      cursor.step sampling.visited.record = .ok (sampling.visited, next) ∧
      reached.trap.acquire reached = ⟨sampling.parts.asked, .ok ((), sampling.stopped)⟩
  counted : ∃ middle last,
    CounterSession.sampleNow sampling.stopped.session = ⟨sampling.parts.latch, .ok (sampling.parts.latched, middle)⟩ ∧
      if sampling.parts.latched then
        CounterSession.readAll middle = ⟨sampling.parts.reads, .ok (sampling.parts.counters, last)⟩
      else sampling.parts.reads = [] ∧ sampling.parts.counters = []
  told : Tells sampling.message? sampling.told

end Sampling

namespace DeviceScope

variable {s : DeviceScope} {pieces : List Piece} {stream : Stream} {before : List Event} {sampler : Sampler}

theorem attributed_at {ahead behind : List Piece} {piece : Piece}
    (begins : Begins s (Piece.timeline (ahead ++ piece :: behind)) before sampler)
    (accounts : ∀ record, piece.sampled = some record → piece.recorded.Accounts record) {sampling : Sampling}
    {earlier : Stream} {shown : List Event} (here : piece.sampled = some sampling.visited.record)
    (many : (Piece.sampledIn ahead).length = earlier.trapped)
    (made : sampling.Made sampler (Piece.timeline (ahead ++ piece :: behind)) earlier shown) :
    sampling.Attributed s.device ((Piece.timeline (ahead ++ piece :: behind)).ops s.device.events) (before ++ shown) ahead
      piece behind earlier := by
  -- The piece ends with the trap that the device stands at.
  have items : Piece.timeline (ahead ++ piece :: behind) =
      (Piece.timeline ahead ++ [TimelineItem.work piece.recorded]) ++ .trap :: Piece.timeline behind := by
    rw [Piece.timeline_append, List.append_assoc]
    simp [Piece.timeline, Piece.items, Timeline.ofCommand, here]
  have level : (Piece.timeline ahead ++ [TimelineItem.work piece.recorded]).traps = earlier.trapped := by
    rw [Timeline.traps_append, Piece.traps_timeline, many]
    rfl
  have events : sampler.trap.events = s.device.events := (ProfiledDevice.events_of_trap begins.trap).symm
  have cycles : s.device.trapCycles = sampler.trap.cycles := by rw [ProfiledDevice.trapCycles, begins.trap]
  obtain ⟨went, waits⟩ := Timeline.stands_ahead s.device.events
    (Piece.timeline ahead ++ [TimelineItem.work piece.recorded]) (Piece.timeline behind)
  rw [level, ← items] at went waits
  have parked := made.parked
  have steps := made.steps
  rw [events] at parked steps
  rw [waits] at parked
  rw [went, ← begins.steps] at steps
  refine ⟨?_, parked.1, parked.2, ?_, ?_, here, accounts _ here, made.resumed, ?_, made.counted, made.told⟩
  · rw [parked.1, items]
    simp
  · rw [List.map_append, Timeline.ops_done, List.append_assoc, Event.steps_append, steps, ← Timeline.ops_done,
      Timeline.ops_append, List.map_append, Timeline.ops_done]
    simp [DeviceOp.done]
  · rw [made.cycles, cycles, many]
  · obtain ⟨during, cursor, next, reached, ran, met, _, acquired⟩ := made.ran
    exact ⟨sampler, during, cursor, next, reached, begins.session, begins.trap, ran, met, acquired⟩

theorem made_attributed (begins : Begins s (Piece.timeline pieces) before sampler)
    (order : Piece.sampledIn pieces = stream.filter Record.traps)
    (accounts : ∀ piece ∈ pieces, ∀ record, piece.sampled = some record → piece.recorded.Accounts record)
    {sampling : Sampling} {earlier later : Stream} {shown : List Event}
    (place : stream = earlier ++ sampling.visited.record :: later) (traps : sampling.visited.record.traps = true)
    (made : sampling.Made sampler (Piece.timeline pieces) earlier shown) :
    ∃ ahead piece behind, pieces = ahead ++ piece :: behind ∧ (Piece.sampledIn ahead).length = earlier.trapped ∧
      sampling.Attributed s.device ((Piece.timeline pieces).ops s.device.events) (before ++ shown) ahead piece behind
        earlier := by
  rw [place, List.filter_append, List.filter_cons_of_pos traps] at order
  obtain ⟨ahead, piece, behind, rfl, here, first⟩ := Piece.sampled_split order
  have many : (Piece.sampledIn ahead).length = earlier.trapped := by
    rw [first, Stream.trapped, List.countP_eq_length_filter]
  exact ⟨ahead, piece, behind, rfl, many, attributed_at begins (accounts piece (by simp)) here many made⟩

end DeviceScope

def LayerStep.submitted (steps : List LayerStep) (submissions : List Submission) : List Piece :=
  (submissions.flatMap (·.buffers)).flatMap (books steps)

def ProfiledDevice.operationsOf (device : ProfiledDevice) (submissions : List Submission) : List DeviceOp :=
  (submissions.flatMap (·.buffers)).flatMap fun buffer => device.driver.flatten (device.registry.rawOf buffer.buffer)

namespace Layer

def recordsOf (layer : Layer) (submissions : List Submission) : Stream :=
  (submissions.flatMap (·.buffers)).flatMap layer.streamOf

-- What a submission shows, taken apart into its samplings. Each is behind the piece with the trap
-- that is as far ahead on the device as the sampled record is ahead among the records.
structure Sampled (layer : Layer) (steps : List LayerStep) (device : ProfiledDevice) (submissions : List Submission)
    (shown before : List Event) (samplings : List Sampling) (after : List Event) : Prop where
  split : shown = before ++ (samplings.flatMap Sampling.shown ++ after)
  told : Event.workloads shown = samplings.filterMap Sampling.message?
  resumed : (Event.steps shown).count (.resume device.events.hostToDevice) = samplings.length
  attributed : ∀ count sampling, samplings[count]? = some sampling → ∃ ahead piece behind, ∃ earlier later : Stream,
    LayerStep.submitted steps submissions = ahead ++ piece :: behind ∧ (Piece.sampledIn ahead).length = count ∧
      layer.recordsOf submissions = earlier ++ sampling.visited.record :: later ∧ earlier.trapped = count ∧
      sampling.visited.record.traps = true ∧ (∃ step ∈ steps, step.Records piece) ∧
      sampling.Attributed device (device.operationsOf submissions)
        (before ++ (samplings.take count).flatMap Sampling.shown) ahead piece behind earlier

variable {layer : Layer} {steps : List LayerStep} {queue : QueueId} {device : ProfiledDevice} {submissions : List Submission}

theorem sampled_none {shown : List Event} (untold : Event.workloads shown = [])
    (still : (Event.steps shown).count (.resume device.events.hostToDevice) = 0) :
    Sampled layer steps device submissions shown shown [] [] :=
  ⟨by simp, untold, still, fun _ _ there => (nomatch there)⟩

theorem sampled_quiet {shown before after more : List Event} {samplings : List Sampling}
    (sampled : Sampled layer steps device submissions shown before samplings after) (quiet : Quiet more) :
    Sampled layer steps device submissions (shown ++ more) before samplings (after ++ more) := by
  refine ⟨?_, ?_, ?_, sampled.attributed⟩
  · rw [sampled.split, List.append_assoc, List.append_assoc]
  · rw [Event.workloads_append, quiet_workloads quiet, List.append_nil, sampled.told]
  · rw [Event.steps_append, quiet_steps quiet, List.append_nil, sampled.resumed]

theorem replay_sampled (here : layer.devices.get? queue.device = some device)
    (level : device.Level True fun handle => LayerStep.books steps ⟨queue.device, handle⟩)
    (resolves : Resolves device queue submissions) {before during : List Event} {sampler : Sampler}
    {outcome : Except Halt (Cursor × Sampler)}
    (begins : DeviceScope.Begins ⟨device, layer.shared⟩ (Piece.timeline (LayerStep.submitted steps submissions)) before
      sampler)
    (ran : Cursor.fresh.run Sampler.visit (layer.recordsOf submissions) sampler = ⟨during, outcome⟩) :
    ∃ samplings notes, Sampled layer steps device submissions (before ++ during) before samplings notes ∧
      (outcome.isOk = true → samplings.length = (layer.recordsOf submissions).trapped) := by
  obtain ⟨stops, order, accounts, ops⟩ := level_resolved here level resolves
  have operations : device.operationsOf submissions =
      (Piece.timeline (LayerStep.submitted steps submissions)).ops device.events := by
    rw [ProfiledDevice.operationsOf, LayerStep.submitted, ← ops, List.flatMap_map, List.flatMap_map]
  have traps : (Piece.timeline (LayerStep.submitted steps submissions)).traps = (layer.recordsOf submissions).trapped :=
    (Piece.traps_timeline _).trans stops
  have events : sampler.trap.events = device.events := (ProfiledDevice.events_of_trap begins.trap).symm
  obtain ⟨samplings, notes, rfl, plain, fewer, whole, went, samples⟩ :=
    Sampler.run_sampled begins.standing (Nat.le_of_eq traps.symm) ran
  refine ⟨samplings, notes, ⟨rfl, ?_, ?_, ?_⟩, whole⟩
  · rw [Event.workloads_append, begins.untold, Event.workloads_append, Sampler.workloads_samples samples,
      quiet_workloads (quiet_notes plain), List.append_nil, List.nil_append]
  · rw [events] at went
    rw [Event.steps_append, begins.steps, went]
    exact Timeline.count_through _ (by omega)
  · intro count sampling there
    obtain ⟨earlier, later, place, trapped, rank, made⟩ := samples count sampling there
    obtain ⟨ahead, piece, behind, split, many, attributed⟩ :=
      DeviceScope.made_attributed begins (order trivial) accounts place trapped made
    have member : piece ∈ LayerStep.submitted steps submissions := by simp [split]
    obtain ⟨buffer, _, inside⟩ := List.mem_flatMap.mp member
    rw [operations]
    exact ⟨ahead, piece, behind, earlier, later, split, many.trans rank, place, rank, trapped,
      LayerStep.books_records steps buffer piece inside, attributed⟩

/-- Whatever is submitted in a run of orderly calls, and wherever the submission ends: its replay is a
sequence of samplings, each with the device behind the work that the sampled record is of, and what
is reported is what they say. If the submission ends well, all records that were to be are sampled. -/
theorem samples_report_their_work (config : Config) (endpoint : ShowingEndpoint) (steps : List LayerStep) (layer : Layer)
    (run : Run (fun layer call => layer.Disciplined call ∧ layer.Orderly call) (fresh config endpoint) steps layer)
    (queue : QueueId) (submissions : List Submission) (device : ProfiledDevice)
    (live : layer.device queue.device = .ok device) (shown : List Event) (outcome : Except Halt (LayerReply × Layer))
    (made : perform (.submit queue submissions) layer = ⟨shown, outcome⟩) :
    ∃ before samplings after, Sampled layer steps device submissions shown before samplings after ∧
      ∀ next, outcome = .ok (.done, next) → samplings.length = (layer.recordsOf submissions).trapped := by
  have level : layer.Level True (LayerStep.books steps) :=
    run_level run fun _ _ both => ⟨both.1, fun _ => both.2⟩
  have here := (device_ok layer queue.device device).mp live
  have ends := ends_submit submissions here ((run_sound run).registries _ device here) (level _ device here)
  rcases outcome with reason | ⟨reply, next⟩
  · obtain ⟨resolves, _, before, during, sampler, rfl, begins, ran⟩ := Act.ends_of_error ends made
    obtain ⟨samplings, notes, sampled, _⟩ := replay_sampled here (level _ device here) resolves begins ran
    exact ⟨before, samplings, notes, sampled, fun _ never => (nomatch never)⟩
  · obtain ⟨answer, scope, rfl, _, resolves, submitted⟩ := Act.ends_of_ok ends made
    cases answer with
    | error error =>
      refine ⟨shown, [], [], sampled_none (submitted.untold (.inl rfl)) ?_, fun _ never => (nomatch never)⟩
      rw [submitted.steps]
      rfl
    | ok _ =>
      have traps : (Piece.timeline (LayerStep.submitted steps submissions)).traps = (layer.recordsOf submissions).trapped :=
        (Piece.traps_timeline _).trans (level_resolved here (level _ device here) (resolves rfl)).1
      rcases Nat.eq_zero_or_pos (Piece.timeline (LayerStep.submitted steps submissions)).traps with none | some
      · refine ⟨shown, [], [], sampled_none (submitted.untold (.inr none)) ?_, fun _ _ => none.symm.trans traps⟩
        rw [submitted.steps.trans (if_pos rfl)]
        exact (Timeline.count_steps _ _).2.1.trans none
      · obtain ⟨before, during, after, sampler, cursor, last, rfl, begins, quiet, ran⟩ := submitted.replayed rfl some
        obtain ⟨samplings, notes, sampled, whole⟩ := replay_sampled here (level _ device here) (resolves rfl) begins ran
        refine ⟨before, samplings, notes ++ after, ?_, fun _ _ => whole rfl⟩
        rw [← List.append_assoc]
        exact sampled_quiet sampled quiet

-- A pass and an executed dispatch, on a device whose counter counts the samples.
def reportedRun : List LayerStep := (fresh (Config.default.withFrameList [0]) ⟨[], 0⟩).trace [
  .createDevice (.new "gpu" [] [] false) (.scripted (.new ⟨[⟨7, "cycles", .integer⟩], [], [(7, [.scaled 10])]⟩)),
  .getQueue ⟨0, 0⟩ 0 0,
  .allocate ⟨0, 0⟩ .primary,
  .allocate ⟨0, 0⟩ .secondary,
  .command ⟨⟨0, 0⟩, ⟨1, 0⟩⟩ (.dispatch 1 1 1),
  .command ⟨⟨0, 0⟩, ⟨0, 0⟩⟩ (.beginRenderPass ⟨8, 8, 1, ⟨false, false⟩⟩),
  .command ⟨⟨0, 0⟩, ⟨0, 0⟩⟩ (.draw 3 1),
  .command ⟨⟨0, 0⟩, ⟨0, 0⟩⟩ .endRenderPass,
  .execute ⟨⟨0, 0⟩, ⟨0, 0⟩⟩ [⟨⟨0, 0⟩, ⟨1, 0⟩⟩]]

def afterReportedRun : Layer := (fresh (Config.default.withFrameList [0]) ⟨[], 0⟩).outcome reportedRun

theorem reported_run_samples_both :
    Run (fun layer call => layer.Disciplined call ∧ layer.Orderly call) (fresh (Config.default.withFrameList [0]) ⟨[], 0⟩)
        reportedRun afterReportedRun ∧
      ∃ device shown next before samplings after, afterReportedRun.device ⟨0, 0⟩ = .ok device ∧
        perform (.submit ⟨⟨0, 0⟩, ⟨0, 0⟩⟩ [⟨[⟨⟨0, 0⟩, ⟨0, 0⟩⟩], false⟩]) afterReportedRun = ⟨shown, .ok (.done, next)⟩ ∧
        Sampled afterReportedRun reportedRun device [⟨[⟨⟨0, 0⟩, ⟨0, 0⟩⟩], false⟩] shown before samplings after ∧
        samplings.filterMap Sampling.message? =
          [.workload [] [⟨"cycles", .integer 20⟩] (.renderPass 1 8 8 1 1),
            .workload [] [⟨"cycles", .integer 30⟩] (.dispatch 1 1 1)] := by
  have run : Run (fun layer call => layer.Disciplined call ∧ layer.Orderly call) _ reportedRun afterReportedRun :=
    run_trace _ _ (by decide +kernel)
  have live : (afterReportedRun.device ⟨0, 0⟩).isOk = true := by decide +kernel
  have answered : (perform (.submit ⟨⟨0, 0⟩, ⟨0, 0⟩⟩ [⟨[⟨⟨0, 0⟩, ⟨0, 0⟩⟩], false⟩]) afterReportedRun).outcome.map (·.1) =
      .ok .done := by decide +kernel
  have told : Event.workloads
      (perform (.submit ⟨⟨0, 0⟩, ⟨0, 0⟩⟩ [⟨[⟨⟨0, 0⟩, ⟨0, 0⟩⟩], false⟩]) afterReportedRun).events =
        [.workload [] [⟨"cycles", .integer 20⟩] (.renderPass 1 8 8 1 1),
          .workload [] [⟨"cycles", .integer 30⟩] (.dispatch 1 1 1)] := by decide +kernel
  refine ⟨run, ?_⟩
  cases found : afterReportedRun.device ⟨0, 0⟩ with
  | error error =>
    rw [found] at live
    cases live
  | ok device =>
    rcases made : perform (.submit ⟨⟨0, 0⟩, ⟨0, 0⟩⟩ [⟨[⟨⟨0, 0⟩, ⟨0, 0⟩⟩], false⟩]) afterReportedRun with ⟨shown, outcome⟩
    rw [made] at answered told
    rcases outcome with reason | ⟨reply, next⟩
    · cases answered
    · obtain rfl : reply = .done := by simpa [Except.map] using answered
      obtain ⟨before, samplings, after, sampled, _⟩ :=
        samples_report_their_work _ _ reportedRun afterReportedRun run _ _ device found shown _ made
      exact ⟨device, shown, next, before, samplings, after, rfl, rfl, sampled, sampled.told ▸ told⟩

end Layer

end GpuProfiler
