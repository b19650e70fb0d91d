import GpuProfiler.Proofs.Device.Custody

set_option autoImplicit false

namespace GpuProfiler

open Act Event

variable {custody : Custody}

namespace Custody

theorem without_outward {σ α : Type} {act : Act σ α} (without : Without isOutward act) :
    Without custody.strays act := without_mono (fun event found => strays_outward event found) without

structure Samples (custody : Custody) (s : Sampler) : Prop where
  driver : custody.Drives s.driver
  events : custody.events = some s.trap.events

end Custody

namespace Sampler

open Custody

abbrev Confined {α : Type} (custody : Custody) (act : Act Sampler α) : Prop :=
  Confines custody.Samples custody.strays act

theorem confined_driver {α : Type} {act : Act Driver α} (guards : custody.Guards act) :
    Confined custody (Act.on driverPart act) :=
  confines_on guards (fun _ samples => samples.driver) fun _ _ samples drives => ⟨drives, samples.events⟩

theorem confined_await {event : RawEvent} (own : event ∈ custody.held) (patience : Nat) :
    Confined custody (Trap.await event patience) := by
  induction patience with
  | zero => exact confines_halt _
  | succ patience ih =>
    refine confines_bind (confined_driver (guards_event_status own)) fun answer => ?_
    match answer with
    | .ok .set => exact confines_pure ()
    | .ok .unset => exact ih
    | .error error => exact confines_bind (confines_emit rfl) fun _ => ih

theorem confined_trap_cycle {α β : Type} {trap : Trap} {inside : Act Sampler α} {next : α × Trap → Act Sampler β}
    (own : custody.events = some trap.events) (confined : Confined custody inside)
    (rest : ∀ answer, Confined custody (next (answer, { trap with cycles := trap.cycles + 1 }))) :
    Confined custody (trap.cycle inside >>= next) := by
  have device : trap.events.deviceToHost ∈ custody.held := by simp [held, own, TrapEvents.list]
  have host : trap.events.hostToDevice ∈ custody.held := by simp [held, own, TrapEvents.list]
  have acquired : Confined custody trap.acquire :=
    confines_get fun _ _ => confines_bind (confined_await device _) fun _ =>
      confines_bind (confined_driver (guards_reset_event device)) (confines_note_failure fun _ => rfl)
  have released : Confined custody trap.release :=
    confines_bind (confined_driver (guards_set_event host)) (confines_note_failure fun _ => rfl)
  simp only [Trap.cycle, bind_assoc, pure_bind]
  exact confines_bind acquired fun _ => confines_bind confined fun answer => confines_bind released fun _ =>
    confines_bind (confines_emit rfl) fun _ => rest answer

theorem confined_cycle : Confined custody cycle := by
  refine confines_get fun s samples => ?_
  have sampled : Confined custody (Act.on sessionPart CounterSession.sampleNow) :=
    confines_aside (without_outward CounterSession.without_sample_now) fun _ _ now => ⟨now.driver, now.events⟩
  refine confined_trap_cycle samples.events sampled fun latched => ?_
  refine confines_bind (confines_modify fun _ now => ⟨now.driver, samples.events⟩) fun _ => ?_
  split
  · exact confines_aside (without_outward CounterSession.without_read_all) fun _ _ now => ⟨now.driver, now.events⟩
  · exact confines_pure _

theorem confined_report (workload : Workload) (labels : Labels) (counters : List Reading) :
    Confined custody (report workload labels counters) := by
  unfold report
  split
  · exact confines_aside (Sender.without_emit (fun _ => rfl) fun _ => rfl) fun _ _ now => ⟨now.driver, now.events⟩
  · exact confines_pure ()

theorem confined_visit (visited : Visit) : Confined custody (visit visited) := by
  have sampled (workload : Workload) (labels : Labels) : Confined custody (sample workload labels) :=
    confines_bind confined_cycle (confined_report workload labels)
  unfold visit
  split
  · split
    · exact sampled _ _
    · exact confines_pure ()
  · split
    · refine confines_bind confined_cycle fun counters => ?_
      split
      · exact confined_report _ _ counters
      · exact confines_emit rfl
    · exact confines_pure ()
  · exact sampled _ _

theorem confined_run (stream : Stream) (cursor : Cursor) : Confined custody (cursor.run visit stream) := by
  induction stream generalizing cursor with
  | nil => exact confines_pure _
  | cons record rest ih =>
    exact confines_bind (confines_emit rfl) fun _ => confines_check _ fun met =>
      confines_bind (confined_visit met.1) fun _ => ih met.2

theorem confined_streams (queue : Queue) (streams : List Stream) :
    Confined custody (queue.runStreams visit streams) := by
  induction streams generalizing queue with
  | nil => exact confines_pure _
  | cons stream rest ih =>
    exact confines_bind (confines_bind (confined_run stream queue.cursor) fun _ => confines_pure _) fun done => ih done

theorem confined_submission (queue : QueueHandle) (buffers : List BufferHandle) :
    Confines (fun pair : Registry × Sampler => custody.Samples pair.2) custody.strays (Registry.replay visit queue buffers) := by
  refine confines_get fun pair _ => ?_
  dsimp only
  split
  · exact confines_pure _
  · next tracked _ =>
    split
    · exact confines_pure _
    · next streams _ =>
      have shown : Confines (fun pair : Registry × Sampler => custody.Samples pair.2) custody.strays
          (Act.on .second (tracked.noteSubmit.runStreams visit streams)) :=
        confines_on (confined_streams _ streams) (fun _ samples => samples) fun _ _ _ samples => samples
      exact confines_bind shown fun _ => confines_bind (confines_modify fun _ samples => samples) fun _ => confines_pure _

end Sampler

namespace DeviceScope

open Custody

def Under (custody : Custody) (s : DeviceScope) : Prop := s.device.custody = custody

abbrev Confined {α : Type} (custody : Custody) (act : Act DeviceScope α) : Prop :=
  Confines (Under custody) custody.strays act

theorem confined_driver {α : Type} {act : Act Driver α} (guards : custody.Guards act) :
    Confined custody (Act.on driverPart act) := by
  refine confines_on guards ?_ ?_
  · rintro s rfl
    exact ⟨rfl, rfl⟩
  · rintro driver s rfl drives
    simp only [Under, ProfiledDevice.custody, driverPart, drives.name, drives.live]
    rfl

theorem confined_registry {α : Type} {act : Act Registry α} (without : Without custody.strays act) :
    Confined custody (Act.on registryPart act) := confines_aside without fun _ _ under => under

theorem confined_tracking {α : Type} {act : Act Recording α} (handle : BufferHandle) (without : Without custody.strays act) :
    Confined custody (Act.on trackingPart (Tracking.withBuffer handle act)) :=
  confines_aside (Tracking.without_buffer handle without) fun _ _ under => under

theorem confined_replay (queue : QueueHandle) (buffers : List BufferHandle) :
    Confined custody (replay queue buffers) := by
  refine confines_get fun s under => ?_
  have own : custody.events = s.device.trap.map (·.events) := congrArg Custody.events under.symm
  cases armed : s.device.trap with
  | none => exact confines_pure _
  | some trap =>
    rw [armed] at own
    -- The trap goes through cycles in the replay; its events are the same behind it.
    refine confines_on (show Confines (fun pair : Registry × Sampler => custody.Samples pair.2) custody.strays _ from ?_) ?_ ?_
    · refine confines_bind (Sampler.confined_submission queue buffers) fun answer => ?_
      cases answer with
      | error error => exact confines_pure _
      | ok records => exact confines_get fun _ _ => confines_bind (confines_emit rfl) fun _ => confines_pure _
    · rintro t rfl
      exact ⟨⟨rfl, rfl⟩, own⟩
    · rintro pair t _ samples
      simp only [Under, ProfiledDevice.custody, ProfiledDevice.trapEvents, samplingPart, samples.driver.name,
        samples.driver.live, Option.map_some, ← samples.events]

theorem confined_replay_if (wanted : Bool) (queue : QueueHandle) (buffers : List BufferHandle) :
    Confined custody (replayIf wanted queue buffers) := by
  cases wanted with
  | false => exact confines_pure ()
  | true => exact confines_bind (confined_replay queue buffers) (confines_note_failure fun _ => rfl)

theorem confined_apply (transition : FrameTransition) : Confined custody (apply transition) := by
  have emitted (condition : Bool) (message : Message) : Confined custody (emitIf condition message) := by
    cases condition with
    | false => exact confines_pure ()
    | true => exact confines_aside (Sender.without_emit (fun _ => rfl) fun _ => rfl) fun _ _ under => under
  have sampled : Confined custody (sampleBoundary transition) := by
    refine confines_bind (confined_driver guards_wait_idle) fun answer => ?_
    refine confines_bind (confines_note_failure (fun _ => rfl) answer) fun _ => ?_
    refine confines_bind (confines_aside (without_outward CounterSession.without_sample_now) fun _ _ under => under) fun latched => ?_
    split
    · exact confines_bind (confines_aside (without_outward CounterSession.without_read_all) fun _ _ under => under) fun _ =>
        confines_aside (Sender.without_emit (fun _ => rfl) fun _ => rfl) fun _ _ under => under
    · exact confines_pure ()
  refine confines_bind (emitted _ _) fun _ => confines_bind (emitted _ _) fun _ => ?_
  split
  · exact sampled
  · exact confines_pure ()

theorem confined_finish_frame (transition : FrameTransition) : Confined custody (finishFrame transition) := by
  refine confines_get fun s _ => ?_
  split
  · exact confined_apply transition
  · exact confines_pure ()

theorem confined_note_submit : Confined custody noteSubmit :=
  confines_aside (without_bind without_get fun frame => by
    split
    · exact without_bind (without_emit rfl) fun _ => without_set _
    · exact without_pure ()) fun _ _ under => under

theorem confined_advance_frame : Confined custody advanceFrame :=
  confines_get fun _ _ => confines_aside (without_bind without_get fun _ => without_bind (without_note_if rfl) fun _ =>
    without_bind (without_set _) fun _ => without_bind (without_emit rfl) fun _ => without_pure _) fun _ _ under => under

theorem confined_submit (policy : ReplayPolicy) (queue : QueueHandle) (raw : RawQueue) (batches : List (List RawBuffer))
    (buffers : List BufferHandle) (endsFrame : Bool) :
    Confined custody (submit policy queue raw batches buffers endsFrame) := by
  have advanced : Confined custody (advanceIf endsFrame) := by
    cases endsFrame with
    | false => exact confines_pure _
    | true => exact confines_bind confined_advance_frame fun _ => confines_pure _
  have finished (pending : Option FrameTransition) : Confined custody (finishIfAny pending) := by
    cases pending with
    | none => exact confines_pure ()
    | some transition => exact confined_finish_frame transition
  refine confines_bind confined_note_submit fun _ => confines_get fun _ _ => confines_bind advanced fun transition => ?_
  refine confines_get fun _ _ => ?_
  dsimp only
  split
  · exact confines_bind (finished transition) fun _ => confined_driver (guards_queue_submit raw batches)
  · exact confines_bind (confined_driver (guards_queue_submit raw batches)) fun answer =>
      confines_bind (confined_replay_if _ queue buffers) fun _ => confines_bind (finished transition) fun _ => confines_pure _

theorem confined_present (raw : RawQueue) : Confined custody (present raw) := by
  refine confines_bind confined_advance_frame fun transition => confines_get fun _ _ => ?_
  split
  · exact confines_bind (confined_driver (guards_queue_present raw)) fun _ =>
      confines_bind (confined_finish_frame transition) fun _ => confines_pure _
  · exact confines_bind (confined_finish_frame transition) fun _ => confined_driver (guards_queue_present raw)

theorem confined_get_queue (family index : UInt32) : Confined custody (getQueue family index) :=
  confines_bind (confined_driver (guards_get_device_queue family index)) fun raw =>
    confined_registry (Registry.without_register_queue (fun _ => rfl) raw family index)

theorem confined_allocate (level : BufferLevel) : Confined custody (allocate level) := by
  refine confines_bind (confined_driver (guards_allocate level)) fun answer => ?_
  cases answer with
  | error error => exact confines_pure _
  | ok raw =>
    exact confines_bind (confined_registry (Registry.without_allocate (fun _ => rfl) raw level)) fun _ => confines_pure _

theorem confined_free (handle : BufferHandle) : Confined custody (free handle) := by
  refine confines_bind (confined_registry (Registry.without_free handle)) fun answer => ?_
  cases answer with
  | error error => exact confines_pure _
  | ok recorder => exact confines_bind (confined_driver (guards_free recorder.raw)) fun _ => confines_pure _

theorem confined_update (handle : BufferHandle) (change : Recorder → Recorder)
    {call : RawBuffer → Act Driver (Except Error Unit)} (guards : ∀ raw, custody.Guards (call raw)) :
    Confined custody (updateThenCall handle change call) := by
  refine confines_bind (confined_tracking handle (without_modify _)) fun answer => ?_
  cases answer with
  | error error => exact confines_pure _
  | ok found => exact confined_driver (guards found.1)

theorem confined_command (handle : BufferHandle) (recorded : Command) : Confined custody (command handle recorded) := by
  refine confines_get fun s under => ?_
  have own : custody.events = s.device.trapEvents := congrArg Custody.events under.symm
  have recording : Without custody.strays (Recording.command recorded s.device.captureMode) := by
    intro recording
    refine lacks_of_ends (ends_mono (Recording.ends_effect recording recorded s.device.captureMode) ?_ ?_)
    · exact fun _ _ _ done => lacks_notes (fun _ => rfl) done.1
    · exact fun _ _ done => lacks_notes (fun _ => rfl) done.1
  refine confines_bind (confined_tracking handle recording) fun answer => ?_
  match answer with
  | .error error => exact confines_pure _
  | .ok (raw, trapAfter) =>
    refine confines_bind (confined_driver (guards_command raw recorded)) fun _ => confines_bind ?_ fun _ => confines_pure _
    unfold emitTrap
    split
    · next events armed => exact confined_driver (guards_emit (own.trans armed) raw)
    · exact confines_pure ()

theorem confined_execute (primary : BufferHandle) (secondaries : List BufferHandle) :
    Confined custody (execute primary secondaries) := by
  refine confines_bind (confined_registry (Registry.without_execute primary secondaries)) fun answer => ?_
  cases answer with
  | error error => exact confines_pure _
  | ok _ =>
    refine confines_get fun s _ => ?_
    dsimp only
    split
    · exact confines_bind (confined_driver (guards_execute _ _)) fun _ => confines_pure _
    · exact confines_pure _
    · exact confines_pure _

end DeviceScope

end GpuProfiler
