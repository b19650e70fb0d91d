import GpuProfiler.Layer
import GpuProfiler.Proofs.Indifference.Sampling

set_option autoImplicit false

namespace GpuProfiler

open Act Watched

instance : Watched ProfiledDevice :=
  ⟨fun steady device => { device with session := outline steady device.session }, fun _ _ => 0⟩

instance : Watched Shared :=
  ⟨fun steady shared => { shared with sender := outline steady shared.sender }, fun shared => tally shared.sender⟩

instance : Watched DeviceScope :=
  ⟨fun steady s => ⟨outline steady s.device, outline steady s.shared⟩, fun s => tally s.shared⟩

theorem FrameTracker.mute_note_submit : Mute noteSubmit := by
  intro frame
  simp only [noteSubmit, ends_bind, ends_get]
  by_cases idle : frame.phase = .idle
  · rw [if_pos idle]
    rfl
  · rw [if_neg idle]
    rfl

theorem FrameTracker.mute_boundary (config : Config) : Mute (boundary config) :=
  mute_of_hushed (hushed_bind hushed_get fun _ => hushed_bind (hushed_note_if _ _) fun _ =>
    hushed_bind (hushed_set _) fun _ => hushed_bind (hushed_note _) fun _ => hushed_pure _)

namespace Driver

theorem mute_wait_idle : Mute deviceWaitIdle := by
  intro driver
  refine ends_mono (ends_wait_idle_shows driver) ?_ (fun _ _ _ => trivial)
  intro shown _ _ same
  rw [same]
  rfl

theorem mute_queue_submit (queue : RawQueue) (batches : List (List RawBuffer)) : Mute (queueSubmit queue batches) :=
  mute_of_beats (beats_queue_submit queue batches) (by simp [Beat.isMessage])

theorem mute_queue_present (queue : RawQueue) : Mute (queuePresent queue) :=
  mute_of_beats (beats_queue_present queue) (by simp [Beat.isMessage])

end Driver

namespace DeviceScope

variable {α : Type} {steady : Bool} {s t : DeviceScope}

section Parts

theorem in_step_driver {act : Act Driver α} (mute : Mute act) :
    InStep steady (· = ·) (Act.on driverPart act) (Act.on driverPart act) :=
  in_step_part ⟨fun _ _ => rfl, fun _ _ _ => rfl, fun _ _ _ => rfl⟩ mute

theorem in_step_registry {act : Act Registry α} (mute : Mute act) :
    InStep steady (· = ·) (Act.on registryPart act) (Act.on registryPart act) :=
  in_step_part ⟨fun _ _ => rfl, fun _ _ _ => rfl, fun _ _ _ => rfl⟩ mute

theorem in_step_tracking {act : Act Tracking α} (mute : Mute act) :
    InStep steady (· = ·) (Act.on trackingPart act) (Act.on trackingPart act) :=
  in_step_part ⟨fun _ _ => rfl, fun _ _ _ => rfl, fun _ _ _ => rfl⟩ mute

theorem in_step_frame {act : Act FrameTracker α} (mute : Mute act) :
    InStep steady (· = ·) (Act.on framePart act) (Act.on framePart act) :=
  in_step_part ⟨fun _ _ => rfl, fun _ _ _ => rfl, fun _ _ _ => rfl⟩ mute

theorem session_fits : sessionPart.Fits := ⟨fun _ _ => rfl, fun _ _ _ => rfl, fun _ _ _ => rfl⟩

theorem sender_fits : senderPart.Fits := ⟨fun _ _ => rfl, fun _ _ _ => rfl, fun _ _ _ => Nat.add_comm _ _⟩

theorem sampling_fits (trap : Trap) : (samplingPart trap).Fits :=
  ⟨fun _ _ => rfl, fun _ _ _ => rfl, fun _ _ _ => Nat.add_comm _ _⟩

theorem device_same (outlined : Akin steady s t) : Akin steady s.device t.device :=
  congrArg DeviceScope.device outlined

end Parts

section Frames

theorem in_step_replay (queue : QueueHandle) (buffers : List BufferHandle) :
    InStep steady (· = ·) (replay queue buffers) (replay queue buffers) := by
  apply in_step_bind in_step_get
  intro s t outlined
  rw [look_same ProfiledDevice.trap (fun _ => rfl) (device_same outlined)]
  cases t.device.trap with
  | none => exact in_step_pure rfl
  | some trap =>
    apply in_step_on (sampling_fits trap)
    apply in_step_bind (Registry.in_step_replay Sampler.in_step_visit queue buffers)
    intro answer _ same
    cases same
    cases answer with
    | error error => exact in_step_pure rfl
    | ok records =>
      apply in_step_bind in_step_get
      intro _ _ _
      apply in_step_bind (in_step_faint (faint_note _) (faint_note _) fun _ _ => trivial)
      intro _ _ _
      exact in_step_pure rfl

theorem in_step_replay_if (wanted : Bool) (queue : QueueHandle) (buffers : List BufferHandle) :
    InStep steady (· = ·) (replayIf wanted queue buffers) (replayIf wanted queue buffers) := by
  cases wanted with
  | false => exact in_step_pure rfl
  | true =>
    apply in_step_bind (in_step_replay queue buffers)
    intro answer _ same
    cases same
    exact in_step_noted (faint_note_failure _ answer)

def reportIf (told : Bool) (frame : Nat) : Act DeviceScope Unit :=
  if told then do
    let counters ← Act.on sessionPart CounterSession.readAll
    Act.on senderPart (Sender.emit (.frameCounters frame counters))
  else Pure.pure ()

theorem faint_report_if (told : Bool) (frame : Nat) : Faint false (reportIf told frame) := by
  cases told with
  | false => exact faint_pure ()
  | true =>
    apply faint_bind (faint_on session_fits (fun _ => rfl) CounterSession.faint_read_all)
    intro counters
    exact faint_on sender_fits (fun _ => rfl) (Sender.faint_emit _)

theorem in_step_report_if {told also : Bool} (agree : steady = true → told = also) (frame : Nat) :
    InStep steady (· = ·) (reportIf told frame) (reportIf also frame) := by
  -- Only one of the two runs may have a message to send here; there is nothing behind it to be skipped.
  cases steady with
  | false => exact in_step_faint (faint_report_if told frame) (faint_report_if also frame) fun _ _ => rfl
  | true =>
    cases agree rfl
    cases told with
    | false => exact in_step_pure rfl
    | true =>
      apply in_step_bind (in_step_on session_fits (CounterSession.in_step_asked CounterSession.faint_read_all))
      intro counters others same
      refine in_step_on sender_fits (Sender.in_step_emit fun steadily => ?_)
      rw [same steadily]

theorem in_step_sample_boundary (transition : FrameTransition) :
    InStep steady (· = ·) (sampleBoundary transition) (sampleBoundary transition) := by
  apply in_step_bind (in_step_driver Driver.mute_wait_idle)
  intro answer _ same
  cases same
  apply in_step_bind (in_step_noted (faint_note_failure _ answer))
  intro _ _ _
  apply in_step_bind (in_step_on session_fits (CounterSession.in_step_asked CounterSession.faint_sample_now))
  intro latched also agree
  exact in_step_report_if (fun steadily => by rw [agree steadily]) transition.closing

theorem in_step_emit_if (condition : Bool) (message : Message) :
    InStep steady (· = ·) (emitIf condition message) (emitIf condition message) := by
  cases condition with
  | false => exact in_step_pure rfl
  | true => exact in_step_on sender_fits (Sender.in_step_emit fun _ => rfl)

theorem in_step_apply (transition : FrameTransition) : InStep steady (· = ·) (apply transition) (apply transition) := by
  apply in_step_bind (in_step_emit_if _ _)
  intro _ _ _
  apply in_step_bind (in_step_emit_if _ _)
  intro _ _ _
  split
  · exact in_step_sample_boundary transition
  · exact in_step_pure rfl

theorem in_step_finish_frame (transition : FrameTransition) :
    InStep steady (· = ·) (finishFrame transition) (finishFrame transition) := by
  apply in_step_bind in_step_get
  intro s t outlined
  rw [look_same ProfiledDevice.isProfiling (fun _ => rfl) (device_same outlined)]
  split
  · exact in_step_apply transition
  · exact in_step_pure rfl

theorem in_step_finish_if_any (transition : Option FrameTransition) :
    InStep steady (· = ·) (finishIfAny transition) (finishIfAny transition) := by
  cases transition with
  | none => exact in_step_pure rfl
  | some transition => exact in_step_finish_frame transition

theorem in_step_advance_frame : InStep steady (· = ·) advanceFrame advanceFrame := by
  apply in_step_bind in_step_get
  intro s t outlined
  dsimp only
  rw [look_same ProfiledDevice.config (fun _ => rfl) (device_same outlined)]
  exact in_step_frame (FrameTracker.mute_boundary _)

theorem in_step_advance_if (endsFrame : Bool) : InStep steady (· = ·) (advanceIf endsFrame) (advanceIf endsFrame) := by
  cases endsFrame with
  | false => exact in_step_pure rfl
  | true =>
    apply in_step_bind in_step_advance_frame
    intro transition _ same
    cases same
    exact in_step_pure rfl

theorem in_step_note_submit : InStep steady (· = ·) noteSubmit noteSubmit := in_step_frame FrameTracker.mute_note_submit

theorem in_step_submit (queue : QueueHandle) (raw : RawQueue) (batches : List (List RawBuffer))
    (buffers : List BufferHandle) (endsFrame : Bool) :
    InStep steady (· = ·) (submit ProfiledDevice.needsReplay queue raw batches buffers endsFrame)
      (submit ProfiledDevice.needsReplay queue raw batches buffers endsFrame) := by
  apply in_step_bind in_step_note_submit
  intro _ _ _
  apply in_step_bind in_step_get
  intro s t outlined
  have replays : s.device.needsReplay buffers = t.device.needsReplay buffers :=
    look_same (fun device : ProfiledDevice => device.needsReplay buffers) (fun _ => rfl) (device_same outlined)
  dsimp only
  rw [replays]
  apply in_step_bind (in_step_advance_if endsFrame)
  intro transition _ same
  cases same
  apply in_step_bind in_step_get
  intro u v outlined
  have samples : transitionSamples u.device transition = transitionSamples v.device transition :=
    look_same (fun device => transitionSamples device transition) (fun _ => by cases transition <;> rfl)
      (device_same outlined)
  rw [samples]
  by_cases plain : (!t.device.needsReplay buffers && !transitionSamples v.device transition) = true
  · rw [if_pos plain]
    apply in_step_bind (in_step_finish_if_any transition)
    intro _ _ _
    exact in_step_driver (Driver.mute_queue_submit raw batches)
  · rw [if_neg plain]
    apply in_step_bind (in_step_driver (Driver.mute_queue_submit raw batches))
    intro answer _ same
    cases same
    apply in_step_bind (in_step_replay_if _ queue buffers)
    intro _ _ _
    apply in_step_bind (in_step_finish_if_any transition)
    intro _ _ _
    exact in_step_pure rfl

theorem in_step_present (raw : RawQueue) : InStep steady (· = ·) (present raw) (present raw) := by
  apply in_step_bind in_step_advance_frame
  intro transition _ same
  cases same
  apply in_step_bind in_step_get
  intro s t outlined
  have samples : s.device.transitionSamples transition = t.device.transitionSamples transition :=
    look_same (fun device : ProfiledDevice => device.transitionSamples transition) (fun _ => rfl) (device_same outlined)
  rw [samples]
  by_cases sampled : t.device.transitionSamples transition = true
  · rw [if_pos sampled]
    apply in_step_bind (in_step_driver (Driver.mute_queue_present raw))
    intro answer _ same
    cases same
    apply in_step_bind (in_step_finish_frame transition)
    intro _ _ _
    exact in_step_pure rfl
  · rw [if_neg sampled]
    apply in_step_bind (in_step_finish_frame transition)
    intro _ _ _
    exact in_step_driver (Driver.mute_queue_present raw)

end Frames

section Buffers

theorem in_step_get_queue (family index : UInt32) :
    InStep steady (· = ·) (getQueue family index) (getQueue family index) := by
  apply in_step_bind (in_step_driver (mute_of_hushed (Driver.hushed_get_device_queue family index)))
  intro raw _ same
  cases same
  exact in_step_registry (mute_of_hushed (Registry.hushed_register_queue raw family index))

theorem in_step_allocate (level : BufferLevel) : InStep steady (· = ·) (allocate level) (allocate level) := by
  apply in_step_bind (in_step_driver (mute_of_hushed (Driver.hushed_allocate level)))
  intro answer _ same
  cases same
  cases answer with
  | error error => exact in_step_pure rfl
  | ok raw =>
    apply in_step_bind (in_step_registry (mute_of_hushed (Registry.hushed_allocate raw level)))
    intro buffer _ same
    cases same
    exact in_step_pure rfl

theorem in_step_free (buffer : BufferHandle) : InStep steady (· = ·) (free buffer) (free buffer) := by
  apply in_step_bind (in_step_registry (mute_of_hushed (Registry.hushed_free buffer)))
  intro answer _ same
  cases same
  cases answer with
  | error error => exact in_step_pure rfl
  | ok recorder =>
    have freed : Mute (Driver.freeCommandBuffer recorder.raw) :=
      mute_of_hushed (Driver.hushed_do_call (fun _ => rfl) (hushed_modify _))
    exact in_step_bind (in_step_driver freed) fun _ _ _ => in_step_pure rfl

theorem in_step_update_then_call (buffer : BufferHandle) (change : Recorder → Recorder)
    {call : RawBuffer → Act Driver (Except Error Unit)} (mute : ∀ raw, Mute (call raw)) :
    InStep steady (· = ·) (updateThenCall buffer change call) (updateThenCall buffer change call) := by
  apply in_step_bind (in_step_tracking (mute_of_hushed (Tracking.hushed_with_buffer buffer (hushed_modify _))))
  intro answer _ same
  cases same
  cases answer with
  | error error => exact in_step_pure rfl
  | ok both => exact in_step_driver (mute both.1)

theorem in_step_emit_trap (wanted : Bool) (events : Option TrapEvents) (raw : RawBuffer) :
    InStep steady (· = ·) (emitTrap wanted events raw) (emitTrap wanted events raw) := by
  unfold emitTrap
  split
  · exact in_step_driver (mute_of_hushed (TrapEvents.hushed_emit _ raw))
  · exact in_step_pure rfl

theorem in_step_command (buffer : BufferHandle) (recorded : Command) :
    InStep steady (· = ·) (command buffer recorded) (command buffer recorded) := by
  apply in_step_bind in_step_get
  intro s t outlined
  dsimp only
  rw [look_same ProfiledDevice.captureMode (fun _ => rfl) (device_same outlined),
    look_same ProfiledDevice.trapEvents (fun _ => rfl) (device_same outlined)]
  apply in_step_bind (in_step_tracking (mute_of_hushed (Tracking.hushed_with_buffer buffer
    (Recording.hushed_command recorded t.device.captureMode))))
  intro answer _ same
  cases same
  cases answer with
  | error error => exact in_step_pure rfl
  | ok both =>
    apply in_step_bind (in_step_driver (mute_of_hushed (Driver.hushed_command both.1 recorded)))
    intro _ _ _
    apply in_step_bind (in_step_emit_trap _ _ _)
    intro _ _ _
    exact in_step_pure rfl

theorem in_step_execute (primary : BufferHandle) (secondaries : List BufferHandle) :
    InStep steady (· = ·) (execute primary secondaries) (execute primary secondaries) := by
  apply in_step_bind (in_step_registry (mute_of_hushed (Registry.hushed_execute primary secondaries)))
  intro answer _ same
  cases same
  cases answer with
  | error error => exact in_step_pure rfl
  | ok _ =>
    apply in_step_bind in_step_get
    intro s t outlined
    dsimp only
    rw [look_same ProfiledDevice.registry (fun _ => rfl) (device_same outlined)]
    cases t.device.registry.buffer primary with
    | error error => exact in_step_pure rfl
    | ok recorder =>
      cases t.device.registry.raws secondaries with
      | error error => exact in_step_pure rfl
      | ok raws =>
        have executed : Mute (Driver.executeCommands recorder.raw raws) :=
          mute_of_hushed (Driver.hushed_do_call (fun _ => rfl) (hushed_modify _))
        exact in_step_bind (in_step_driver executed) fun _ _ _ => in_step_pure rfl

end Buffers

end DeviceScope

end GpuProfiler
