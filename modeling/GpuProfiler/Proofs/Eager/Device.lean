import GpuProfiler.Layer
import GpuProfiler.Proofs.Eager.Sampled

set_option autoImplicit false

namespace GpuProfiler

namespace Registry

open Act

theorem through_register_queue (raw : RawQueue) (family index : UInt32) :
    Through bare (registerQueue raw family index) := by
  refine through_from fun registry => ?_
  have listed : registry.bare.findQueue raw = registry.findQueue raw := rfl
  rw [listed]
  cases registry.findQueue raw with
  | some handle => rfl
  | none =>
    have inserted := Arena.insert_map Queue.bare registry.queues (.new raw family index)
    have there : registry.bare.queues.insert (.new raw family index) =
        ((registry.queues.insert (.new raw family index)).1,
          (registry.queues.insert (.new raw family index)).2.map Queue.bare) := inserted.symm
    dsimp only
    rw [there]
    rfl

theorem through_drop_namesake (raw : RawBuffer) : Through bare (dropNamesake raw) := by
  refine through_from fun registry => ?_
  have listed : registry.bare.findBuffer raw = registry.findBuffer raw := rfl
  rw [listed]
  cases registry.findBuffer raw <;> rfl

theorem through_allocate (raw : RawBuffer) (level : BufferLevel) : Through bare (allocate raw level) :=
  through_bind (through_drop_namesake raw) fun _ => through_from fun _ => rfl

theorem through_free (handle : BufferHandle) : Through bare (free handle) := by
  refine through_from fun registry => ?_
  have kept : registry.bare.buffers.remove handle = registry.buffers.remove handle := rfl
  rw [kept]
  rcases registry.buffers.remove handle with ⟨_ | recorder, buffers⟩ <;> rfl

theorem through_execute (primary : BufferHandle) (secondaries : List BufferHandle) :
    Through bare (execute primary secondaries) := by
  refine through_from fun registry => ?_
  have kept : registry.bare.buffer primary = registry.buffer primary := rfl
  rw [streams_bare, kept]
  cases registry.streams secondaries with
  | error error => rfl
  | ok streams => cases registry.buffer primary <;> rfl

theorem agrees_replays {σ : Type} {kinds : List (Event → Bool)} {registry other : Registry}
    (same : registry.bare = other.bare)
    (visitor : Visit → Act σ Unit) (queue : QueueHandle) (buffers : List BufferHandle) (s : σ) :
    Ran.Agrees kinds seen (replay visitor queue buffers (registry, s)) (replay visitor queue buffers (other, s)) := by
  have found : registry.streams buffers = other.streams buffers := by rw [← streams_bare, same, streams_bare]
  have looked : (registry.queue queue).map Queue.bare = (other.queue queue).map Queue.bare := by
    rw [← queue_bare, same, queue_bare]
  have refused (registry : Registry) (error : Error)
      (stopped : registry.queue queue = .error error ∨ (∃ tracked, registry.queue queue = .ok tracked) ∧
        registry.streams buffers = .error error) :
      replay visitor queue buffers (registry, s) = ⟨[], .ok (.error error, (registry, s))⟩ := by
    unfold replay
    rw [bind_of_ok (show get (registry, s) = ⟨[], .ok ((registry, s), (registry, s))⟩ from rfl)]
    obtain gone | ⟨⟨tracked, held⟩, gone⟩ := stopped
    · simp only [gone]
      rfl
    · simp only [held, gone]
      rfl
  apply Ran.agrees_onto
  cases here : registry.queue queue with
  | error error =>
    cases there : other.queue queue with
    | ok _ =>
      rw [here, there] at looked
      cases looked
    | error also =>
      rw [here, there] at looked
      cases looked
      rw [refused registry error (.inl here), refused other error (.inl there)]
      simp only [Ran.onto, Except.map, seen, same]
  | ok tracked =>
    cases there : other.queue queue with
    | error _ =>
      rw [here, there] at looked
      cases looked
    | ok also =>
      cases streams : other.streams buffers with
      | error error =>
        rw [refused registry error (.inr ⟨⟨tracked, here⟩, found.trans streams⟩),
          refused other error (.inr ⟨⟨also, there⟩, streams⟩)]
        simp only [Ran.onto, Except.map, seen, same]
      | ok streams =>
        rw [onto_replay visitor here (found.trans streams) s, onto_replay visitor there streams s, same]

end Registry

namespace Tracking

open Act

def bare (s : Tracking) : Tracking := { s with registry := s.registry.bare }

theorem through_with_buffer {α : Type} (handle : BufferHandle) (act : Act Recording α) :
    Through bare (withBuffer handle act) := by
  refine through_from fun s => ?_
  have kept : s.bare.registry.buffer handle = s.registry.buffer handle := rfl
  rw [kept]
  cases s.registry.buffer handle with
  | error error => rfl
  | ok recorder =>
    exact (through_bind (through_aside (fun _ => rfl) fun _ _ => rfl) fun _ => through_pure _ : Through bare _) s

end Tracking

def ProfiledDevice.bare (device : ProfiledDevice) : ProfiledDevice := { device with registry := device.registry.bare }

namespace DeviceScope

open Act

def bare (s : DeviceScope) : DeviceScope := { s with device := s.device.bare }

section Parts

variable {α : Type}

theorem through_driver (act : Act Driver α) : Through bare (Act.on driverPart act) :=
  through_aside (fun _ => rfl) fun _ _ => rfl

theorem through_session (act : Act (CounterSession Backend) α) : Through bare (Act.on sessionPart act) :=
  through_aside (fun _ => rfl) fun _ _ => rfl

theorem through_sender (act : Act (Sender ShowingEndpoint) α) : Through bare (Act.on senderPart act) :=
  through_aside (fun _ => rfl) fun _ _ => rfl

theorem through_frame (act : Act FrameTracker α) : Through bare (Act.on framePart act) :=
  through_aside (fun _ => rfl) fun _ _ => rfl

theorem through_registry {act : Act Registry α} (through : Through Registry.bare act) :
    Through bare (Act.on registryPart act) := through_on (fun _ => rfl) (fun _ _ => rfl) through

theorem through_tracking {act : Act Tracking α} (through : Through Tracking.bare act) :
    Through bare (Act.on trackingPart act) := through_on (fun _ => rfl) (fun _ _ => rfl) through

end Parts

theorem through_get_queue (family index : UInt32) : Through bare (getQueue family index) :=
  through_bind (through_driver _) fun raw => through_registry (Registry.through_register_queue raw family index)

theorem through_allocate (level : BufferLevel) : Through bare (allocate level) := by
  refine through_bind (through_driver _) fun answer => ?_
  cases answer with
  | error error => exact through_pure _
  | ok raw => exact through_bind (through_registry (Registry.through_allocate raw level)) fun _ => through_pure _

theorem through_free (buffer : BufferHandle) : Through bare (free buffer) := by
  refine through_bind (through_registry (Registry.through_free buffer)) fun answer => ?_
  cases answer with
  | error error => exact through_pure _
  | ok recorder => exact through_bind (through_driver _) fun _ => through_pure _

theorem through_update_then_call (buffer : BufferHandle) (change : Recorder → Recorder)
    (call : RawBuffer → Act Driver (Except Error Unit)) : Through bare (updateThenCall buffer change call) := by
  refine through_bind (through_tracking (Tracking.through_with_buffer buffer _)) fun answer => ?_
  cases answer with
  | error error => exact through_pure _
  | ok found => exact through_driver _

theorem through_emit_trap (wanted : Bool) (events : Option TrapEvents) (raw : RawBuffer) :
    Through bare (emitTrap wanted events raw) := by
  unfold emitTrap
  split
  · exact through_driver _
  · exact through_pure ()

theorem through_command (buffer : BufferHandle) (recorded : Command) : Through bare (command buffer recorded) := by
  refine through_from fun s => ?_
  have mode : s.bare.device.captureMode = s.device.captureMode := rfl
  have events : s.bare.device.trapEvents = s.device.trapEvents := rfl
  rw [mode, events]
  refine through_bind (through_tracking (Tracking.through_with_buffer buffer _)) (fun answer => ?_) s
  cases answer with
  | error error => exact through_pure _
  | ok found =>
    exact through_bind (through_driver _) fun _ => through_bind (through_emit_trap _ _ _) fun _ => through_pure _

theorem through_execute (primary : BufferHandle) (secondaries : List BufferHandle) :
    Through bare (execute primary secondaries) := by
  refine through_bind (through_registry (Registry.through_execute primary secondaries)) fun answer => ?_
  cases answer with
  | error error => exact through_pure _
  | ok done =>
    refine through_from fun s => ?_
    have kept : s.bare.device.registry.buffer primary = s.device.registry.buffer primary := rfl
    have raws : s.bare.device.registry.raws secondaries = s.device.registry.raws secondaries := Registry.raws_bare _ _
    rw [kept, raws]
    cases s.device.registry.buffer primary with
    | error error => rfl
    | ok recorder =>
      cases s.device.registry.raws secondaries with
      | error error => rfl
      | ok raws => exact (through_bind (through_driver _) fun _ => through_pure _ : Through bare _) s

theorem through_note_submit : Through bare noteSubmit := through_frame _

theorem through_advance_frame : Through bare advanceFrame := through_from fun s => through_frame _ s

theorem through_advance_if (endsFrame : Bool) : Through bare (advanceIf endsFrame) := by
  cases endsFrame with
  | false => exact through_pure none
  | true => exact through_bind through_advance_frame fun _ => through_pure _

theorem through_emit_if (condition : Bool) (message : Message) : Through bare (emitIf condition message) := by
  unfold emitIf
  split
  · exact through_sender _
  · exact through_pure ()

theorem through_sample_boundary (transition : FrameTransition) : Through bare (sampleBoundary transition) := by
  refine through_bind (through_driver _) fun answer => through_bind (through_note_failure _ answer) fun _ =>
    through_bind (through_session _) fun latched => ?_
  split
  · exact through_bind (through_session _) fun _ => through_sender _
  · exact through_pure ()

theorem through_apply (transition : FrameTransition) : Through bare (apply transition) := by
  refine through_bind (through_emit_if _ _) fun _ => through_bind (through_emit_if _ _) fun _ => ?_
  split
  · exact through_sample_boundary transition
  · exact through_pure ()

theorem through_finish_frame (transition : FrameTransition) : Through bare (finishFrame transition) := by
  refine through_from fun s => ?_
  have same : s.bare.device.isProfiling = s.device.isProfiling := rfl
  rw [same]
  split
  · exact through_apply transition s
  · rfl

theorem through_finish_if_any (transition : Option FrameTransition) : Through bare (finishIfAny transition) := by
  cases transition with
  | none => exact through_pure ()
  | some transition => exact through_finish_frame transition

theorem through_present (raw : RawQueue) : Through bare (present raw) := by
  refine through_bind through_advance_frame fun transition => through_from fun s => ?_
  have same : s.bare.device.transitionSamples transition = s.device.transitionSamples transition := rfl
  rw [same]
  split
  · exact through_bind (through_driver _) (fun _ => through_bind (through_finish_frame _) fun _ => through_pure _) s
  · exact through_bind (through_finish_frame _) (fun _ => through_driver _) s

end DeviceScope

end GpuProfiler
