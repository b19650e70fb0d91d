import GpuProfiler.Proofs.Device.Submission
import GpuProfiler.Proofs.Trap.Replay

set_option autoImplicit false

namespace GpuProfiler

namespace Submission

variable {id : DeviceId} {registry : Registry}

theorem resolve_buffers_ok {ids : List BufferId} {raws : List RawBuffer} {handles : List BufferHandle}
    (found : resolveBuffers id registry ids = .ok (raws, handles)) :
    handles = ids.map (·.buffer) ∧ raws = handles.map registry.rawOf ∧
      ∀ buffer ∈ ids, buffer.device = id ∧ ∃ recorder, registry.buffers.get? buffer.buffer = some recorder := by
  induction ids generalizing raws handles with
  | nil =>
    cases found
    exact ⟨rfl, rfl, fun _ member => (nomatch member)⟩
  | cons buffer rest ih =>
    unfold resolveBuffers at found
    split at found
    · cases found
    · next own =>
      split at found
      · cases found
      · next recorder here =>
        have live := (Registry.buffer_ok _ _ _).mp here
        cases later : resolveBuffers id registry rest with
        | error error =>
          rw [later] at found
          cases found
        | ok both =>
          rw [later] at found
          cases found
          obtain ⟨handles, raws, all⟩ := ih later
          refine ⟨by rw [handles, List.map_cons], by rw [List.map_cons, Registry.raw_of_some live, raws], ?_⟩
          intro other member
          rcases List.mem_cons.mp member with rfl | behind
          · exact ⟨Decidable.not_not.mp own, recorder, live⟩
          · exact all other behind

theorem resolve_ok {submissions : List Submission} {batches : List (List RawBuffer)} {handles : List BufferHandle}
    (found : resolve id registry submissions = .ok (batches, handles)) :
    handles = (submissions.flatMap (·.buffers)).map (·.buffer) ∧ batches.flatten = handles.map registry.rawOf ∧
      ∀ buffer ∈ submissions.flatMap (·.buffers),
        buffer.device = id ∧ ∃ recorder, registry.buffers.get? buffer.buffer = some recorder := by
  induction submissions generalizing batches handles with
  | nil =>
    cases found
    exact ⟨rfl, rfl, fun _ member => (nomatch member)⟩
  | cons submission rest ih =>
    unfold resolve at found
    split at found
    · cases found
    · next raws own here =>
      obtain ⟨first, named, live⟩ := resolve_buffers_ok here
      cases later : resolve id registry rest with
      | error error =>
        rw [later] at found
        cases found
      | ok both =>
        rw [later] at found
        cases found
        obtain ⟨second, renamed, all⟩ := ih later
        refine ⟨by rw [first, second, List.flatMap_cons, List.map_append], ?_, ?_⟩
        · rw [List.flatten_cons, named, renamed, List.map_append]
        · intro buffer member
          rw [List.flatMap_cons, List.mem_append] at member
          exact member.elim (live buffer) (all buffer)

end Submission

namespace ProfiledDevice

structure Idle (device : ProfiledDevice) : Prop where
  timeline : device.driver.timeline = []
  distinct : device.events.deviceToHost ≠ device.events.hostToDevice
  unsignalled : device.events.hostToDevice ∉ device.driver.signalled
  reliable : ∀ fault ∈ device.driver.faults, fault.method ≠ .setEvent

-- A submission to an idle device, which will stop as often as the records of the buffers say.
structure Submits (device : ProfiledDevice) (queue : QueueHandle) (batches : List (List RawBuffer))
    (buffers : List BufferHandle) (items : Timeline) : Prop where
  idle : device.Idle
  sound : device.registry.Sound device.isProfiling
  queue : ∃ tracked, device.registry.queue queue = .ok tracked
  live : ∀ handle ∈ buffers, ∃ recorder, device.registry.buffers.get? handle = some recorder
  ops : batches.flatten.flatMap device.driver.flatten = items.ops device.events
  traps : items.traps = Stream.trapped (buffers.flatMap device.registry.streamOf)

theorem events_of_trap {device : ProfiledDevice} {trap : Trap} (held : device.trap = some trap) :
    device.events = trap.events := by
  rw [events, trapEvents, held, Option.map_some, Option.getD_some]

theorem needs_replay_trapped {device : ProfiledDevice} (sound : device.registry.Sound device.isProfiling)
    {buffers : List BufferHandle} (skipped : device.needsReplay buffers = false) :
    Stream.trapped (buffers.flatMap device.registry.streamOf) = 0 := by
  apply List.countP_eq_zero.mpr
  intro record member traps
  obtain ⟨handle, listed, inside⟩ := List.mem_flatMap.mp member
  have profiling := (Registry.records_sound sound handle record inside traps).2
  have stops : device.registry.hasTraps buffers = true := by
    rw [Registry.hasTraps, List.any_eq_true]
    refine ⟨handle, listed, ?_⟩
    cases live : device.registry.buffers.get? handle with
    | none =>
      rw [Registry.streamOf, live] at inside
      cases inside
    | some recorder =>
      rw [Registry.stream_of_some live] at inside
      exact List.any_eq_true.mpr ⟨record, inside, traps⟩
  rw [needsReplay, profiling, stops] at skipped
  cases skipped

theorem replay_trapped {device : ProfiledDevice} {buffers : List BufferHandle}
    (replays : device.needsReplay buffers = true) : 0 < Stream.trapped (buffers.flatMap device.registry.streamOf) := by
  rw [needsReplay, Bool.and_eq_true] at replays
  obtain ⟨handle, listed, stops⟩ := List.any_eq_true.mp replays.2
  apply List.countP_pos_iff.mpr
  split at stops
  · next recorder live =>
    obtain ⟨record, member, traps⟩ := List.any_eq_true.mp stops
    exact ⟨record, List.mem_flatMap.mpr ⟨handle, listed, by rwa [Registry.stream_of_some live]⟩, traps⟩
  · cases stops

end ProfiledDevice

namespace DeviceScope

open ProfiledDevice

-- How a replay begins: the device has gone to the first trap, and the sampler has what the device
-- had before the submission.
structure Begins (s : DeviceScope) (items : Timeline) (before : List Event) (sampler : Sampler) : Prop where
  steps : Event.steps before = items.lead s.device.events
  untold : Event.workloads before = []
  trap : s.device.trap = some sampler.trap
  session : sampler.session = s.device.session
  name : sampler.driver.name = s.device.driver.name
  standing : sampler.Standing items

structure Submitted (s : DeviceScope) (items : Timeline) (stream : Stream) (shown : List Event)
    (answer : Except Error Unit) (next : DeviceScope) : Prop where
  events : next.device.events = s.device.events
  timeline : next.device.driver.timeline = []
  unsignalled : s.device.events.hostToDevice ∉ next.device.driver.signalled
  works : Driver.Works s.device.driver next.device.driver
  cycles : next.device.trapCycles = s.device.trapCycles + if answer.isOk then items.traps else 0
  steps : Event.steps shown = if answer.isOk then items.steps s.device.events else []
  untold : answer.isOk = false ∨ items.traps = 0 → Event.workloads shown = []
  replayed : answer.isOk = true → 0 < items.traps → ∃ before during after sampler cursor last,
    shown = before ++ (during ++ after) ∧ Begins s items before sampler ∧ Quiet after ∧
      Cursor.fresh.run Sampler.visit stream sampler = ⟨during, .ok (cursor, last)⟩

-- A submission ends early only in its replay, and not because it blocks.
def Overflows (s : DeviceScope) (items : Timeline) (stream : Stream) (shown : List Event) (reason : Halt) : Prop :=
  reason ≠ .blocked ∧ ∃ before during sampler, shown = before ++ during ∧ Begins s items before sampler ∧
    Cursor.fresh.run Sampler.visit stream sampler = ⟨during, .error reason⟩

variable {s middle next : DeviceScope} {items : Timeline} {stream : Stream}

section Frames

theorem events_aside (aside : Aside s next) : next.device.events = s.device.events := by
  rw [events, events, trapEvents, trapEvents, aside.trap]

theorem submits_aside (aside : Aside s next) {queue : QueueHandle} {batches : List (List RawBuffer)}
    {buffers : List BufferHandle} (submits : s.device.Submits queue batches buffers items) :
    next.device.Submits queue batches buffers items := by
  have driver := aside.driver
  have flatten : next.device.driver.flatten = s.device.driver.flatten :=
    Driver.flatten_congr (same_aside aside).contents
  refine ⟨⟨?_, ?_, ?_, ?_⟩, ?_, ?_, ?_, ?_, ?_⟩
  · rw [driver]
    exact submits.idle.timeline
  · rw [events_aside aside]
    exact submits.idle.distinct
  · rw [events_aside aside, driver]
    exact submits.idle.unsignalled
  · rw [driver]
    exact submits.idle.reliable
  · exact sound_same (same_aside aside) (profiling_rests (rests_aside aside)) submits.sound
  · rw [aside.registry]
    exact submits.queue
  · rw [aside.registry]
    exact submits.live
  · rw [flatten, events_aside aside]
    exact submits.ops
  · rw [aside.registry]
    exact submits.traps

theorem begins_behind (aside : Aside s middle) (session : middle.device.session = s.device.session)
    {shown before : List Event} {sampler : Sampler} (quiet : Quiet shown) (begins : Begins middle items before sampler) :
    Begins s items (shown ++ before) sampler := by
  refine ⟨?_, ?_, ?_, begins.session.trans session, ?_, begins.standing⟩
  · rw [Event.steps_append, quiet_steps quiet, List.nil_append, begins.steps, events_aside aside]
  · rw [Event.workloads_append, quiet_workloads quiet, begins.untold, List.append_nil]
  · rw [← aside.trap, begins.trap]
  · rw [begins.name, aside.driver]

theorem submitted_failed (idle : s.device.Idle) {driver : Driver} (works : Driver.Works s.device.driver driver)
    (timeline : driver.timeline = []) (signalled : driver.signalled = s.device.driver.signalled) {shown : List Event}
    (steps : Event.steps shown = []) (untold : Event.workloads shown = []) (error : Error) :
    Submitted s items stream shown (.error error) (driverPart.set driver s) := by
  refine ⟨rfl, timeline, ?_, works, rfl, steps, fun _ => untold, fun ok => by cases ok⟩
  change _ ∉ driver.signalled
  rw [signalled]
  exact idle.unsignalled

theorem submitted_refused (idle : s.device.Idle) (error : Error) : Submitted s items stream [] (.error error) s :=
  submitted_failed idle ⟨rfl, rfl, rfl, rfl⟩ idle.timeline rfl rfl rfl error

theorem begins_submitted (idle : s.device.Idle) {trap : Trap} (held : s.device.trap = some trap) {driver : Driver}
    (works : Driver.Works s.device.driver driver) (standing : driver.Standing s.device.events items)
    (raw : RawQueue) (batches : List (List RawBuffer)) :
    Begins s items
      (Driver.callEvent (.queueSubmit raw batches) s.device.driver ::
        (items.lead s.device.events).map (.progress s.device.driver.name))
      ⟨driver, trap, s.device.session, s.shared.sender, 0⟩ := by
  have events := events_of_trap held
  refine ⟨by simp [Driver.callEvent, Event.step?], by simp [Driver.callEvent, Event.workload?], held, rfl, works.name, ?_⟩
  refine ⟨events ▸ standing, events ▸ idle.distinct, ?_⟩
  change ∀ fault ∈ driver.faults, _
  rw [works.faults]
  exact idle.reliable

theorem submitted_idle (idle : s.device.Idle) {shown : List Event}
    {answer : Except Error Unit} (submitted : Submitted s items stream shown answer next) : next.device.Idle := by
  refine ⟨submitted.timeline, ?_, ?_, ?_⟩
  · rw [submitted.events]
    exact idle.distinct
  · rw [submitted.events]
    exact submitted.unsignalled
  · rw [submitted.works.faults]
    exact idle.reliable

theorem submitted_behind (aside : Aside s middle) (session : 0 < items.traps → middle.device.session = s.device.session)
    {before shown : List Event} {answer : Except Error Unit} (quiet : Quiet before)
    (submitted : Submitted middle items stream shown answer next) :
    Submitted s items stream (before ++ shown) answer next := by
  refine ⟨submitted.events.trans (events_aside aside), submitted.timeline, ?_, ?_, ?_, ?_, ?_, ?_⟩
  · rw [← events_aside aside]
    exact submitted.unsignalled
  · have works := submitted.works
    rw [aside.driver] at works
    exact ⟨works.name, works.faults, works.manual, works.buffers⟩
  · rw [submitted.cycles, trapCycles, trapCycles, aside.trap]
  · rw [Event.steps_append, quiet_steps quiet, List.nil_append, submitted.steps, events_aside aside]
  · intro unsampled
    rw [Event.workloads_append, quiet_workloads quiet, List.nil_append, submitted.untold unsampled]
  · intro accepted stops
    obtain ⟨ahead, during, after, sampler, cursor, last, rfl, begins, still, ran⟩ := submitted.replayed accepted stops
    exact ⟨before ++ ahead, during, after, sampler, cursor, last, by rw [List.append_assoc],
      begins_behind aside (session stops) quiet begins, still, ran⟩

theorem submitted_ahead (aside : Aside middle next) {shown after : List Event} {answer : Except Error Unit}
    (quiet : Quiet after) (submitted : Submitted s items stream shown answer middle) :
    Submitted s items stream (shown ++ after) answer next := by
  have driver := aside.driver
  refine ⟨(events_aside aside).trans submitted.events, ?_, ?_, ?_, ?_, ?_, ?_, ?_⟩
  · rw [driver]
    exact submitted.timeline
  · rw [driver]
    exact submitted.unsignalled
  · rw [driver]
    exact ⟨submitted.works.name, submitted.works.faults, submitted.works.manual, submitted.works.buffers⟩
  · rw [← submitted.cycles, trapCycles, trapCycles, aside.trap]
  · rw [Event.steps_append, quiet_steps quiet, List.append_nil, submitted.steps]
  · intro unsampled
    rw [Event.workloads_append, quiet_workloads quiet, List.append_nil, submitted.untold unsampled]
  · intro accepted stops
    obtain ⟨before, during, more, sampler, cursor, last, rfl, begins, still, ran⟩ := submitted.replayed accepted stops
    exact ⟨before, during, more ++ after, sampler, cursor, last, by simp, begins, (quiet_append _ _).mpr ⟨still, quiet⟩, ran⟩

theorem overflows_behind (aside : Aside s middle) (session : middle.device.session = s.device.session)
    {before shown : List Event} {reason : Halt} (quiet : Quiet before)
    (overflows : Overflows middle items stream shown reason) : Overflows s items stream (before ++ shown) reason := by
  obtain ⟨unblocked, ahead, during, sampler, rfl, begins, ran⟩ := overflows
  exact ⟨unblocked, before ++ ahead, during, sampler, by rw [List.append_assoc],
    begins_behind aside session quiet begins, ran⟩

variable (s)

theorem session_note_submit :
    Act.Ends noteSubmit s (fun _ _ next => next.device.session = s.device.session) (fun _ _ => False) := by
  simp only [noteSubmit, FrameTracker.noteSubmit, Act.ends_on, Act.ends_bind, Act.ends_get]
  split <;> exact rfl

theorem session_advance_if (endsFrame : Bool) :
    Act.Ends (advanceIf endsFrame) s (fun _ _ next => next.device.session = s.device.session) (fun _ _ => False) := by
  cases endsFrame with
  | false => exact rfl
  | true =>
    simp only [advanceIf, if_true, advanceFrame, FrameTracker.boundary, Act.ends_bind, Act.ends_get, Act.ends_on,
      Act.ends_note_if, Act.ends_set, Act.ends_note, Act.ends_pure]
    rfl

end Frames

section Ends

variable {queue : QueueHandle} {batches : List (List RawBuffer)} {buffers : List BufferHandle}

theorem ends_submit_untrapped (submits : s.device.Submits queue batches buffers items) (none : items.traps = 0)
    (raw : RawQueue) (stream : Stream) :
    Act.Ends (Act.on driverPart (Driver.queueSubmit raw batches)) s (Submitted s items stream) (fun _ _ => False) := by
  obtain ⟨idle, _, _, _, ops, _⟩ := submits
  rw [Act.ends_on]
  refine Act.ends_mono (Driver.ends_queue_submit idle.distinct idle.unsignalled idle.timeline raw ops) ?_
    (fun _ _ never => never)
  rintro shown answer driver ⟨works, outcome⟩
  have never : answer.isOk = true → 0 < items.traps → False := fun _ stops => Nat.not_lt_zero _ (none ▸ stops)
  cases answer with
  | ok _ =>
    obtain ⟨standing, rfl⟩ := outcome
    refine ⟨rfl, ?_, standing.unsignalled, works, by simp [driverPart, trapCycles, none], ?_, ?_,
      fun ok stops => (never ok stops).elim⟩
    · exact standing.timeline.trans (Timeline.pending_untrapped _ none).1
    · simp [Event.steps_cons, Driver.callEvent, Event.step?, Except.isOk, Except.toBool,
        ← (Timeline.pending_untrapped s.device.events none).2]
    · simp [Driver.callEvent, Event.workload?]
  | error error =>
    obtain ⟨timeline, signalled, rfl⟩ := outcome
    exact submitted_failed idle works timeline signalled (by simp [Driver.callEvent, Event.step?])
      (by simp [Driver.callEvent, Event.workload?]) error

theorem ends_replay (s : DeviceScope) {sampler : Sampler} {tracked : Queue}
    (sampling : ∃ trap, s.device.trap = some trap ∧ sampler = ⟨s.device.driver, trap, s.device.session, s.shared.sender, 0⟩)
    (standing : sampler.Standing items)
    (known : s.device.registry.queue queue = .ok tracked)
    (live : ∀ handle ∈ buffers, ∃ recorder, s.device.registry.buffers.get? handle = some recorder)
    (traps : items.traps = Stream.trapped (buffers.flatMap s.device.registry.streamOf)) :
    Act.Ends (replay queue buffers) s
      (fun shown answer next => answer = .ok () ∧ ∃ during note cursor last, shown = during ++ [.note note] ∧
        Cursor.fresh.run Sampler.visit (buffers.flatMap s.device.registry.streamOf) sampler = ⟨during, .ok (cursor, last)⟩ ∧
        next.device.driver = last.driver ∧ next.device.trap = some last.trap)
      (fun shown reason => reason ≠ .blocked ∧
        Cursor.fresh.run Sampler.visit (buffers.flatMap s.device.registry.streamOf) sampler = ⟨shown, .error reason⟩) := by
  obtain ⟨trap, held, rfl⟩ := sampling
  have ran := Sampler.ends_run standing (Nat.le_of_eq traps.symm) Cursor.fresh
  simp only [replay, Act.ends_bind, Act.ends_get, held, Act.ends_on, Registry.replay]
  simp only [samplingPart, known, Registry.streams_some live, Act.ends_bind, Act.ends_on, Act.ends_get, Act.ends_modify,
    Act.ends_note, Act.ends_pure, Queue.run_streams_flatten, ← List.flatMap_def]
  refine Act.ends_mono (Act.ends_and (Act.ends_self _ _) ran) ?_ (fun shown reason both => ⟨both.2, both.1⟩)
  rintro during cursor last ⟨run, _⟩
  exact ⟨trivial, during, .replayed (buffers.flatMap s.device.registry.streamOf).length last.sampled, cursor, last,
    by simp [Part.second], run, rfl, rfl⟩

theorem ends_submit_replayed (submits : s.device.Submits queue batches buffers items) (raw : RawQueue)
    (replays : s.device.needsReplay buffers = true) :
    Act.Ends (Act.on driverPart (Driver.queueSubmit raw batches)) s
      (fun shown answer middle => Act.Ends (replayIf answer.isOk queue buffers) middle
        (fun later _ next =>
          Submitted s items (buffers.flatMap s.device.registry.streamOf) (shown ++ later) answer next)
        (fun later reason => Overflows s items (buffers.flatMap s.device.registry.streamOf) (shown ++ later) reason))
      (fun _ _ => False) := by
  obtain ⟨idle, _, ⟨tracked, known⟩, live, ops, traps⟩ := submits
  obtain ⟨trap, held⟩ : ∃ trap, s.device.trap = some trap := by
    rw [needsReplay, Bool.and_eq_true] at replays
    exact Option.isSome_iff_exists.mp replays.1
  have events := events_of_trap held
  rw [Act.ends_on]
  refine Act.ends_mono (Driver.ends_queue_submit idle.distinct idle.unsignalled idle.timeline raw ops) ?_
    (fun _ _ never => never)
  rintro shown answer driver ⟨works, outcome⟩
  cases answer with
  | error error =>
    obtain ⟨timeline, signalled, rfl⟩ := outcome
    exact submitted_failed idle works timeline signalled (by simp [Driver.callEvent, Event.step?])
      (by simp [Driver.callEvent, Event.workload?]) error
  | ok _ =>
    obtain ⟨standing, rfl⟩ := outcome
    have begins := begins_submitted idle held works standing raw batches
    have ready := begins.standing
    have ran := ends_replay (driverPart.set driver s) ⟨trap, held, rfl⟩ ready known live traps
    simp only [replayIf, Except.isOk, Except.toBool, if_true, Act.ends_bind, Act.ends_note_failure]
    refine Act.ends_mono ran ?_ (fun during reason both => ⟨both.1, _, during, _, rfl, begins, both.2⟩)
    rintro _ _ next ⟨rfl, during, note, cursor, last, rfl, run, lastly, kept⟩
    -- The replay goes through as many cycles as the device has traps before it.
    have through := Act.ends_of_ok (Sampler.ends_run ready (Nat.le_of_eq traps.symm) Cursor.fresh) run
    obtain ⟨stands, steps, cycles, goes⟩ := through
    have done : (items.skip (Stream.trapped (buffers.flatMap s.device.registry.streamOf))).traps = 0 := by
      rw [Timeline.traps_skip, traps, Nat.sub_self]
    have same : last.trap.events = trap.events := by rw [cycles]
    refine ⟨?_, ?_, ?_, ?_, ?_, ?_, ?_, ?_⟩
    · rw [events_of_trap kept, same, events]
    · rw [lastly]
      exact stands.device.timeline.trans (Timeline.pending_untrapped _ done).1
    · rw [lastly, events, ← same]
      exact stands.device.unsignalled
    · rw [lastly]
      exact Driver.works_trans works goes
    · simp [trapCycles, held, kept, cycles, traps, Except.isOk, Except.toBool]
    · rw [← traps, Timeline.through_all] at steps
      simpa [Driver.callEvent, Event.step?, Except.isOk, Except.toBool, events] using steps
    · rintro (refused | none)
      · cases refused
      · have stops := replay_trapped replays
        rw [← traps, none] at stops
        exact (Nat.lt_irrefl 0 stops).elim
    · intro _ _
      exact ⟨_, during, [.note note], _, cursor, last, by simp, begins, by simp [Event.stirs], run⟩

theorem ends_queued (submits : s.device.Submits queue batches buffers items) (raw : RawQueue) :
    Act.Ends (Act.on driverPart (Driver.queueSubmit raw batches)) s
      (fun shown answer middle =>
        Act.Ends (replayIf (s.device.needsReplay buffers && answer.isOk) queue buffers) middle
          (fun later _ next =>
            Submitted s items (buffers.flatMap s.device.registry.streamOf) (shown ++ later) answer next)
          (fun later reason => Overflows s items (buffers.flatMap s.device.registry.streamOf) (shown ++ later) reason))
      (fun _ _ => False) := by
  cases replays : s.device.needsReplay buffers with
  | true => exact ends_submit_replayed submits raw replays
  | false =>
    have none : items.traps = 0 := submits.traps.trans (needs_replay_trapped submits.sound replays)
    refine Act.ends_mono (ends_submit_untrapped submits none raw (buffers.flatMap s.device.registry.streamOf)) ?_
      (fun _ _ never => never)
    intro shown answer next submitted
    show Submitted _ _ _ (shown ++ []) _ _
    rwa [List.append_nil]

theorem ends_submit (submits : s.device.Submits queue batches buffers items) (raw : RawQueue) (endsFrame : Bool) :
    Act.Ends (submit ProfiledDevice.needsReplay queue raw batches buffers endsFrame) s
      (Submitted s items (buffers.flatMap s.device.registry.streamOf))
      (Overflows s items (buffers.flatMap s.device.registry.streamOf)) := by
  simp only [submit, Act.ends_bind, Act.ends_get]
  refine Act.ends_mono (Act.ends_and (ends_note_submit s) (session_note_submit s)) ?_ (fun _ _ never => never.1.elim)
  rintro noted _ first ⟨⟨quiet, aside⟩, session⟩
  refine Act.ends_mono (Act.ends_and (ends_advance_if first endsFrame) (session_advance_if first endsFrame)) ?_
    (fun _ _ never => never.1.elim)
  rintro advanced transition second ⟨⟨still, also⟩, kept⟩
  have both := aside_trans aside also
  have silent := (quiet_append noted advanced).mpr ⟨quiet, still⟩
  have ready := submits_aside both submits
  have streams : second.device.registry.streamOf = s.device.registry.streamOf := by rw [both.registry]
  have policy : first.device.needsReplay buffers = second.device.needsReplay buffers := by
    rw [needsReplay, needsReplay, isProfiling, isProfiling, also.trap, also.registry]
  -- The frame is closed on a device that is idle, before the driver has the submission or after it.
  have finishes {t : DeviceScope} (idle : t.device.driver.timeline = []) :
      Act.Ends (finishIfAny transition) t (fun shown _ next => Quiet shown ∧ Aside t next) (fun _ _ => False) :=
    Act.ends_mono (ends_finish_if_any t transition) (fun _ _ _ done => done) (fun _ _ busy => busy idle)
  rw [policy]
  split
  · next untouched =>
    have skipped : second.device.needsReplay buffers = false := by
      rw [Bool.and_eq_true, Bool.not_eq_true'] at untouched
      exact untouched.1
    have none : items.traps = 0 := by
      rw [submits.traps, ← streams]
      exact needs_replay_trapped ready.sound skipped
    rw [Act.ends_bind]
    refine Act.ends_mono (finishes ready.idle.timeline) ?_ (fun _ _ never => never.elim)
    rintro finished _ third ⟨hushed, beside⟩
    refine Act.ends_mono (ends_submit_untrapped (submits_aside beside ready) none raw
      (buffers.flatMap s.device.registry.streamOf)) ?_ (fun _ _ never => never.elim)
    intro shown answer last submitted
    have whole := submitted_behind (aside_trans both beside) (fun stops => absurd (none ▸ stops) (Nat.lt_irrefl 0))
      ((quiet_append _ _).mpr ⟨silent, hushed⟩) submitted
    simpa using whole
  · simp only [Act.ends_bind, Act.ends_pure]
    refine Act.ends_mono (ends_queued ready raw) ?_ (fun _ _ never => never.elim)
    intro shown answer third replayed
    apply Act.ends_mono replayed
    · intro later _ fourth submitted
      refine Act.ends_mono (finishes submitted.timeline) ?_ (fun _ _ never => never.elim)
      rintro finished _ last ⟨hushed, beside⟩
      have whole := submitted_behind both (fun _ => kept.trans session) silent (submitted_ahead beside hushed submitted)
      rw [streams] at whole
      simpa using whole
    · intro later reason overflows
      have whole := overflows_behind both (kept.trans session) silent overflows
      rw [streams] at whole
      simpa using whole

end Ends

end DeviceScope

end GpuProfiler
